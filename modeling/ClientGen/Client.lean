import ClientGen.Graph.Basic

/-!
# HTTP clients

The two ways in which generated functions send requests, and what each of them needs: the type of
the options of a call, the wrapper around return types, and the imports.
-/

namespace ClientGen

/-- What generated functions send requests with: the `axios` package under the name `http`, or the
function `fetch`. -/
inductive Client where
  | axios
  | fetch
  deriving DecidableEq, Repr

namespace Client

/-- The type of the options of a call, the last parameter of every function. -/
def configType : Client → String
  | .axios => "AxiosRequestConfig"
  | .fetch => "RequestInit"

def defaultWrapper : Client → String
  | .axios => "Promise<AxiosResponse<\x7b__type__\x7d>>"
  | .fetch => "Promise<\x7b__type__\x7d>"

def imports (client : Client) (module : Option String) : List Graph.Import :=
  match client with
  | .axios => [
      { Graph.Import.named ["AxiosRequestConfig", "AxiosResponse"] "axios" with
        isTypeOnly := true },
      Graph.Import.defaultOf "http" (module.getD "axios")]
  | .fetch => (module.map (Graph.Import.defaultOf "fetch")).toList

end Client

end ClientGen
