import SubDocAgent.Bytes
import SubDocAgent.Go
import SubDocAgent.Memd
import SubDocAgent.Wire
import SubDocAgent.MultiRequest
import SubDocAgent.SinglePath
import SubDocAgent.LookupHandler
import SubDocAgent.MutateHandler
import SubDocAgent.Exchange
import SubDocAgent.SaslCallbacks
import SubDocAgent.AgentConfig
import SubDocAgent.ConnStr
import SubDocAgent.Errors
