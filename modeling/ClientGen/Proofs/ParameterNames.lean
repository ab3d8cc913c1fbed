import ClientGen.Proofs.ParameterMerging
import ClientGen.Proofs.Signature

/-!
# Names of parameters

The parameters of a function are named after what they are called in the API description. Different
parameters have different names there, but characters that no identifier may hold are dropped from
them. The main statement says exactly when the names of a function are distinct: no two names that
fill its path become one identifier.
-/

namespace ClientGen

namespace Operation

open Document (Parameter)
open TypeScript (isReserved sanitizeIdentifier)

/-- A name that the path of an operation is filled under: that of a parameter for the path, or that
of a placeholder. -/
def FillsPath (site : Site) (parameters : List Parameter) (name : String) : Prop :=
  (∃ parameter ∈ parameters, parameter.location = "path" ∧ parameter.name = name) ∨
    name ∈ placeholders site.path

theorem nodup_names_located {merged : List Parameter} (distinct : (merged.map slot).Nodup)
    (location : String) : ((located location merged).map (·.name)).Nodup := by
  apply List.Nodup.of_map fun name => (name, location)
  have slots : ((located location merged).map (·.name)).map (fun name => (name, location)) =
      (located location merged).map slot := by
    rw [List.map_map]
    apply List.map_congr_left
    intro parameter listed
    have here := beq_iff_eq.mp (List.mem_filter.mp listed).2
    rw [Function.comp_apply, slot, here]
  rw [slots]
  exact distinct.sublist (List.filter_sublist.map slot)

/-! ## What fills the path -/

theorem nodup_keys_addPlaceholders {fields : List (String × Graph.Field)} {names : List String}
    (distinct : (fields.map Prod.fst).Nodup) :
    ((addPlaceholders fields names).map Prod.fst).Nodup := by
  induction names generalizing fields with
  | nil => exact distinct
  | cons name rest ih =>
      rw [addPlaceholders]
      split
      · exact ih distinct
      · rename_i unfilled
        apply ih
        rw [List.map_append, List.map_singleton, ← List.concat_eq_append]
        apply List.Nodup.concat _ distinct
        intro filled
        obtain ⟨entry, listed, same⟩ := List.mem_map.mp filled
        exact unfilled (List.any_eq_true.mpr ⟨entry, listed, beq_iff_eq.mpr same⟩)

theorem mem_keys_addPlaceholders_iff {fields : List (String × Graph.Field)} {names : List String}
    {name : String} :
    name ∈ (addPlaceholders fields names).map Prod.fst ↔
      name ∈ fields.map Prod.fst ∨ name ∈ names := by
  induction names generalizing fields with
  | nil => simp [addPlaceholders]
  | cons first rest ih =>
      rw [addPlaceholders]
      split
      · rename_i filled
        have known : first ∈ fields.map Prod.fst := by
          obtain ⟨entry, listed, same⟩ := List.any_eq_true.mp filled
          exact List.mem_map.mpr ⟨entry, listed, beq_iff_eq.mp same⟩
        rw [ih, List.mem_cons]
        refine or_congr_right' fun unknown => (or_iff_right ?_).symm
        rintro rfl
        exact unknown known
      · rw [ih, List.map_append, List.map_singleton, List.mem_append, List.mem_singleton,
          List.mem_cons, or_assoc]

theorem mem_keys_pathFields_iff (site : Site) (parameters : List Parameter) (name : String) :
    name ∈ (pathFields site.path parameters).map Prod.fst ↔ FillsPath site parameters name := by
  rw [pathFields, mem_keys_addPlaceholders_iff, List.map_map, FillsPath]
  apply or_congr_left
  simp [located, pathField, and_assoc]

/-- The names for the path are distinct exactly if no two names that fill it become one. -/
theorem nodup_pathNames_iff {site : Site} {parameters : List Parameter}
    (distinct : (parameters.map slot).Nodup) :
    (pathNames site parameters).Nodup ↔
      ∀ a b, FillsPath site parameters a → FillsPath site parameters b →
        sanitizeIdentifier a = sanitizeIdentifier b → a = b := by
  have keys : ((pathFields site.path parameters).map Prod.fst).Nodup := by
    apply nodup_keys_addPlaceholders
    rw [List.map_map]
    exact nodup_names_located distinct "path"
  have named : pathNames site parameters =
      ((pathFields site.path parameters).map Prod.fst).map sanitizeIdentifier := by
    rw [pathNames, List.map_map]
    exact List.map_congr_left name_of_mem_pathFields
  rw [named, List.nodup_map_iff_inj_on keys]
  constructor
  · intro injective a b first second
    exact injective a ((mem_keys_pathFields_iff _ _ _).mpr first) b
      ((mem_keys_pathFields_iff _ _ _).mpr second)
  · intro injective a first b second
    exact injective a b ((mem_keys_pathFields_iff _ _ _).mp first)
      ((mem_keys_pathFields_iff _ _ _).mp second)

/-! ## All parameters -/

/-- The query, the payload and the options have names of their own. -/
theorem nodup_names_parameterList_iff (settings : Settings) (site : Site)
    (parameters : List Parameter) (sent : Option Payload) :
    ((parameterList settings (fieldsOf site parameters sent)).map (·.name)).Nodup ↔
      (pathNames site parameters).Nodup := by
  have apart : ∀ word, isReserved word = true → ∀ name ∈ pathNames site parameters, name ≠ word :=
    fun word reserved name inPath => Call.ne_of_isReserved (isReserved_of_mem_pathNames inPath) reserved
  have query := apart "query" (by decide)
  have body := apart "body" (by decide)
  have config := apart "config" (by decide)
  rw [(perm_names_parameterList settings _).nodup_iff, names_fieldsOf]
  cases (queryMembers parameters).isEmpty <;> cases sent.isSome <;>
    simp +contextual [Call.memberIf, List.nodup_append, query, body, config]

/-- The parameters of a function have distinct names exactly if no two names that fill the path of
its operation become one identifier. -/
theorem nodup_parameters_iff_of_parse {client : Client} {record parsed : Record}
    (accepted : record.parse client = .ok parsed) :
    ∃ source document, record.source = some source ∧ Document.ofJson source = .ok document ∧
      List.Forall₂ (fun site function => ∃ parameters sent,
        Built document (Graph.settings record.config.shaping document client) site parameters sent
          function ∧
        ((function.parameters.map (·.name)).Nodup ↔
          ∀ a b, FillsPath site parameters a → FillsPath site parameters b →
            sanitizeIdentifier a = sanitizeIdentifier b → a = b))
        (Graph.sites document) parsed.graph.functions := by
  obtain ⟨source, document, loaded, read, functions⟩ := Record.built_of_parse accepted
  refine ⟨source, document, loaded, read, functions.imp ?_⟩
  rintro site function ⟨parameters, sent, built⟩
  refine ⟨parameters, sent, built, ?_⟩
  rw [built.function, assemble, nodup_names_parameterList_iff]
  exact nodup_pathNames_iff (nodup_slots_mergedParameters built.merged)

/-- The names of the function that puts an order are distinct. -/
theorem nodup_parameters_order :
    ((Orders.function .fetch).parameters.map (·.name)).Nodup := by
  have accepted : Orders.start.parse .fetch = .ok (Orders.parsed .fetch) := by rfl
  obtain ⟨source, document, loaded, read, functions⟩ := nodup_parameters_iff_of_parse accepted
  obtain rfl : Orders.source = source := Option.some.inj loaded
  obtain rfl : Orders.document = document := Except.ok.inj read
  cases functions with
  | cons single _ =>
      obtain ⟨parameters, sent, built, distinct⟩ := single
      obtain rfl : [Orders.shop, Orders.dry] = parameters := Except.ok.inj built.merged
      apply distinct.mpr
      have given : ∀ name, FillsPath Orders.site [Orders.shop, Orders.dry] name →
          name = "shop-id" ∨ name = "no" := by
        intro name fills
        rw [← mem_keys_pathFields_iff] at fills
        have keys : (pathFields Orders.site.path [Orders.shop, Orders.dry]).map Prod.fst =
            ["shop-id", "no"] := by decide
        rw [keys] at fills
        simpa using fills
      intro a b first second same
      rcases given a first with rfl | rfl <;> rcases given b second with rfl | rfl
      · rfl
      · exact absurd same (by decide)
      · exact absurd same (by decide)
      · rfl

end Operation

namespace Ranges

/-- A description of one operation, whose path has two placeholders that differ in a character
which no identifier may hold. -/
def source : Json :=
  .object [
    ("openapi", .string "3.0.0"),
    ("paths", .object [("/\x7ba-b\x7d/\x7ba.b\x7d", .object [("get", .object [])])])]

def get : Document.Operation :=
  ⟨none, none, none, false, [], none, []⟩

def item : Document.PathItem :=
  ⟨some get, none, none, none, none, none, none, []⟩

def document : Document where
  swagger := none
  openapi := some "3.0.0"
  info := ⟨none, none, none⟩
  host := none
  basePath := none
  schemes := []
  servers := []
  paths := [("/\x7ba-b\x7d/\x7ba.b\x7d", item)]
  definitions := []
  parameters := []
  components := none

def site : Operation.Site :=
  ⟨"/\x7ba-b\x7d/\x7ba.b\x7d", .get, item, get⟩

def start : Record :=
  { Record.new (.uri "ranges.json") ⟨none, ⟨none, none⟩, Shaping.none, none⟩ [] with
    source := some source }

def function (client : Client) : Graph.Function :=
  Operation.assemble (Graph.settings Shaping.none document client)
    (Graph.envelopeOf (Graph.settings Shaping.none document client)) site [] none

def parsed (client : Client) : Record :=
  { start with graph := Graph.assemble document Shaping.none client [function client] }

end Ranges

/-- For both clients the one function of the description gets two parameters of one name. -/
theorem Operation.not_nodup_parameters_ranges :
    Ranges.start.parse .axios = .ok (Ranges.parsed .axios) ∧
      (Ranges.parsed .axios).graph.functions = [Ranges.function .axios] ∧
      (Ranges.function .axios).parameters.map (·.name) = ["aB", "aB", "config"] ∧
      ¬ ((Ranges.function .axios).parameters.map (·.name)).Nodup ∧
      Ranges.start.parse .fetch = .ok (Ranges.parsed .fetch) ∧
      (Ranges.parsed .fetch).graph.functions = [Ranges.function .fetch] ∧
      ¬ ((Ranges.function .fetch).parameters.map (·.name)).Nodup := by
  have axios : (Ranges.function .axios).parameters.map (·.name) = ["aB", "aB", "config"] := by rfl
  have fetch : (Ranges.function .fetch).parameters.map (·.name) = ["aB", "aB", "config"] := by rfl
  refine ⟨by rfl, by rfl, axios, ?_, by rfl, by rfl, ?_⟩
  · rw [axios]
    decide
  · rw [fetch]
    decide

end ClientGen
