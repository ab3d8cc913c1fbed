import ClientGen.Config.Codec
import ClientGen.Graph.Codec
import ClientGen.Record
import ClientGen.TypeScript.Codec

/-!
# Records as JSON values

The JSON form of records and their outputs, for writing only.
-/

namespace ClientGen

open TypeScript (encodeText?)

def Slot.name : Slot → String
  | .pending => "pending"
  | .request _ => "request"
  | .typings _ => "typings"
  | .unhandled => "unhandled"

namespace Output

def members (output : Output) : Members :=
  [("kind", .string output.kind.tag), ("root", .string output.root.text),
    ("path", .string output.path.text), ("import", encodeText? output.specifier),
    ("slot", .string output.slot.name), ("code", encodeText? output.code)]

def encode (output : Output) : Json :=
  .object output.members

def encodeFully (output : Output) : Json :=
  .object <| output.members ++
    [("module", match output.slot.module? with
      | some module => module.encode
      | none => .null)]

end Output

def Record.encode (record : Record) : Json :=
  .object [("inputs", record.input.encode), ("config", record.config.encode),
    ("graphs", record.graph.encode),
    ("outputs", .array (record.outputs.map Output.encodeFully)),
    ("source", record.source.getD .null), ("hasTypings", .bool record.hasTypings)]

end ClientGen
