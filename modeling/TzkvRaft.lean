import TzkvRaft.Basic
import TzkvRaft.Handlers
import TzkvRaft.Replica
import TzkvRaft.Cluster
import TzkvRaft.Written
import TzkvRaft.Roles
import TzkvRaft.Mutex
