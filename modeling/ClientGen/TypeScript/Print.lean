import ClientGen.Text.Blank
import ClientGen.Text.Lines
import ClientGen.Text.Replace
import ClientGen.TypeScript.Literal
import ClientGen.TypeScript.Module

/-!
# Printing modules

The source text of modules and their statements. Documentation goes into one block comment, which
nothing in it can close, and a module ends with exactly one line feed.
-/

namespace ClientGen.TypeScript

/-- A line of documentation in which no comment can end. -/
def docText (line : String) : String :=
  Text.replace "*/" "*\\/" line

def docLine (indent line : String) : String :=
  let line := docText line
  if line.isEmpty then indent ++ " *\n" else indent ++ " * " ++ line ++ "\n"

/-- Documentation as a block comment, nothing for no lines. -/
def printDocs (indent : String) (docs : List String) : String :=
  match docs with
  | [] => ""
  | docs => indent ++ "/**\n" ++ String.join (docs.map (docLine indent)) ++ indent ++ " */\n"

def exportWord (isExported : Bool) : String :=
  if isExported then "export " else ""

def optionalMark (isOptional : Bool) : String :=
  if isOptional then "?" else ""

def TypeSpec.print : TypeSpec → String
  | .keyword primitive => primitive.text
  | .expression text => text

def Property.print (property : Property) : String :=
  quoteIfNeeded property.name ++ optionalMark property.isOptional ++ ": " ++ property.type.print

def Property.printLines (property : Property) : String :=
  printDocs "  " property.docs ++ "  " ++ property.print ++ ";\n"

def TypeDefinition.print (type : TypeDefinition) : String :=
  printDocs "" type.docs ++ exportWord type.isExported ++
    match type.definition with
    | .interface properties =>
        "interface " ++ type.name ++ " \x7b\n" ++
          String.join (properties.map Property.printLines) ++ "\x7d\n"
    | .typeAlias value => "type " ++ type.name ++ " = " ++ value.print ++ ";\n"

def Parameter.print (parameter : Parameter) : String :=
  parameter.name ++ optionalMark parameter.isOptional ++
    match parameter.type with
    | some type => ": " ++ type.print
    | none => ""

def VariableKind.print : VariableKind → String
  | .const => "const"
  | .let => "let"
  | .var => "var"

def Variable.print (declared : Variable) : String :=
  exportWord declared.isExported ++ declared.kind.print ++ " " ++ declared.name ++
    (match declared.init with
      | some init => " = " ++ init
      | none => "") ++ ";\n"

def bodyLine (line : String) : String :=
  if line.isEmpty then "\n" else "  " ++ line ++ "\n"

/-- The text of the body of a function; an entry of several lines keeps them all. -/
def printBody (body : List String) : String :=
  match body with
  | [] => " \x7b\x7d\n"
  | body => " \x7b\n" ++ String.join ((body.flatMap Text.lines).map bodyLine) ++ "\x7d\n"

def Function.print (function : Function) : String :=
  printDocs "" function.docs ++ exportWord function.isExported ++
    (if function.isAsync then "async " else "") ++ "function " ++ function.name ++ "(" ++
    Text.join ", " (function.parameters.map Parameter.print) ++ ")" ++
    (match function.returnType with
      | some type => ": " ++ type.print
      | none => "") ++ printBody function.body

def ImportItem.print (item : ImportItem) : String :=
  match item.localName with
  | some localName => item.name ++ " as " ++ localName
  | none => item.name

def Import.clauses (imported : Import) : List String :=
  imported.default.toList ++ (imported.namespaceName.map ("* as " ++ ·)).toList ++
    match imported.items with
    | [] => []
    | items => ["\x7b " ++ Text.join ", " (items.map ImportItem.print) ++ " \x7d"]

def Import.print (imported : Import) : String :=
  match imported.clauses with
  | [] => "import " ++ quote imported.source ++ ";\n"
  | clauses =>
      "import " ++ (if imported.isTypeOnly then "type " else "") ++ Text.join ", " clauses ++
        " from " ++ quote imported.source ++ ";\n"

def headerLine (line : String) : String :=
  if line.isEmpty then "//\n" else "// " ++ line ++ "\n"

/-- The statements of one kind and an empty line after them, nothing for no statements. -/
def block {α : Type} (print : α → String) (items : List α) : String :=
  match items with
  | [] => ""
  | items => String.join (items.map print) ++ "\n"

def Module.printParts (module : Module) : String :=
  block headerLine module.header ++ block Import.print module.imports ++
    block Variable.print module.bindings ++
    String.join (module.types.map fun type => type.print ++ "\n") ++
    String.join (module.functions.map fun function => function.print ++ "\n")

def Module.print (module : Module) : String :=
  Text.trimEnd '\n' module.printParts ++ "\n"

end ClientGen.TypeScript
