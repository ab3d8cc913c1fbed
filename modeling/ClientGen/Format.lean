import ClientGen.Path.Basic

/-!
# File formats

The formats of configurations and manifests, told by the extension of a file.
-/

namespace ClientGen

inductive Format where
  | toml
  | json
  | yaml
  deriving DecidableEq, Repr

def Format.ofExtension? (extension : String) : Option Format :=
  if extension = "toml" then some .toml
  else if extension = "json" then some .json
  else if extension = "yaml" || extension = "yml" then some .yaml
  else none

def Format.ofPath? (path : Path) : Option Format :=
  ofExtension? path.format

end ClientGen
