import AstateRdma.Backend
import AstateRdma.Retry
import AstateRdma.RpcServer
import AstateRdma.Engine
import AstateRdma.Transfer
import AstateRdma.Lifecycle
import AstateRdma.Activity
import AstateRdma.TensorMeta
import AstateRdma.Shutdown
import AstateRdma.Resources
