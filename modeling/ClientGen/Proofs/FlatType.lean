import ClientGen.Proofs.TypeTokens

/-!
# Flat types

A union that stands directly inside a union, or an intersection directly inside an intersection,
is not told apart in the text of a type. Flattening merges it into the outer one, and this changes
nothing about the tokens.
-/

namespace ClientGen.TypeScript

namespace TypeTree

/-! ## Spelling part by part -/

def factorSpelling (type : TypeTree) : List Token :=
  enclosed type.isUnion type.spelling

def memberSpelling (member : Member TypeTree) : List Token :=
  keySpelling member.name member.isOptional ++ member.type.spelling

theorem spellings_eq_map (types : List TypeTree) : spellings types = types.map spelling := by
  induction types with
  | nil => rfl
  | cons type rest ih => rw [spellings, ih, List.map_cons]

theorem factorSpellings_eq_map (types : List TypeTree) :
    factorSpellings types = types.map factorSpelling := by
  induction types with
  | nil => rfl
  | cons type rest ih =>
      rw [factorSpellings, ih, List.map_cons]
      rfl

theorem memberSpellings_eq_map (members : List (Member TypeTree)) :
    memberSpellings members = members.map memberSpelling := by
  induction members with
  | nil => rfl
  | cons member rest ih =>
      rw [memberSpellings, ih, List.map_cons]
      rfl

/-- A type spells the parts of a union that it is, with `|` between them. -/
theorem spelling_eq_alternatives (type : TypeTree) :
    type.spelling = joinTokens '|' (type.alternatives.map spelling) := by
  cases type with
  | union first second rest =>
      rw [spelling, spellings_eq_map]
      rfl
  | _ => rfl

/-- Any type but a union spells the parts of an intersection that it is, with `&` between them. -/
theorem spelling_eq_factors {type : TypeTree} (noUnion : type.isUnion = false) :
    type.spelling = joinTokens '&' (type.factors.map factorSpelling) := by
  cases type with
  | intersection first second rest =>
      rw [spelling, factorSpellings_eq_map]
      rfl
  | union => cases noUnion
  | _ => rfl

theorem collapse_alternatives (type : TypeTree) : collapse .union type.alternatives = type := by
  cases type <;> rfl

theorem collapse_factors (type : TypeTree) : collapse .intersection type.factors = type := by
  cases type <;> rfl

/-! ## Flat trees -/

/-- No union stands directly inside a union, no intersection directly inside an intersection. -/
inductive IsFlat : TypeTree → Prop where
  | name (word : TypeWord) : IsFlat (.name word)
  | number (numeral : Numeral) : IsFlat (.number numeral)
  | flag (value : Bool) : IsFlat (.flag value)
  | string (value : String) : IsFlat (.string value)
  | array {item : TypeTree} (inner : IsFlat item) : IsFlat (.array item)
  | union {first second : TypeTree} {rest : List TypeTree}
      (inner : ∀ part ∈ first :: second :: rest, IsFlat part)
      (noUnion : ∀ part ∈ first :: second :: rest, part.isUnion = false) :
      IsFlat (.union first second rest)
  | intersection {first second : TypeTree} {rest : List TypeTree}
      (inner : ∀ part ∈ first :: second :: rest, IsFlat part)
      (noIntersection : ∀ part ∈ first :: second :: rest, part.isIntersection = false) :
      IsFlat (.intersection first second rest)
  | object {members : List (Member TypeTree)}
      (inner : ∀ member ∈ members, IsFlat member.type) : IsFlat (.object members)
  | record {value : TypeTree} (inner : IsFlat value) : IsFlat (.record value)

namespace IsFlat

variable {type : TypeTree}

theorem alternatives (isFlat : IsFlat type) :
    ∀ part ∈ type.alternatives, IsFlat part ∧ part.isUnion = false := by
  intro part member
  cases isFlat with
  | union inner noUnion => exact ⟨inner part member, noUnion part member⟩
  | _ =>
      obtain rfl := List.mem_singleton.mp member
      exact ⟨by constructor <;> assumption, rfl⟩

theorem factors (isFlat : IsFlat type) :
    ∀ part ∈ type.factors, IsFlat part ∧ part.isIntersection = false := by
  intro part member
  cases isFlat with
  | intersection inner noIntersection => exact ⟨inner part member, noIntersection part member⟩
  | _ =>
      obtain rfl := List.mem_singleton.mp member
      exact ⟨by constructor <;> assumption, rfl⟩

end IsFlat

/-! ## Flattening -/

theorem alternatives_ne_nil (type : TypeTree) : type.alternatives ≠ [] := by
  cases type <;> exact List.cons_ne_nil _ _

theorem factors_ne_nil (type : TypeTree) : type.factors ≠ [] := by
  cases type <;> exact List.cons_ne_nil _ _

theorem exists_two_parts {parts : TypeTree → List TypeTree} (nonempty : ∀ type, parts type ≠ [])
    (first second : TypeTree) (rest : List TypeTree) :
    ∃ one two others, (first :: second :: rest).flatMap parts = one :: two :: others := by
  obtain ⟨one, front, inFirst⟩ := List.exists_cons_of_ne_nil (nonempty first)
  obtain ⟨two, behind, inSecond⟩ := List.exists_cons_of_ne_nil (nonempty second)
  rw [List.flatMap_cons, List.flatMap_cons, inFirst, inSecond]
  cases front with
  | nil => exact ⟨one, two, _, rfl⟩
  | cons next others => exact ⟨one, next, _, rfl⟩

theorem isUnion_flat (type : TypeTree) : type.flat.isUnion = type.isUnion := by
  cases type with
  | union first second rest =>
      obtain ⟨one, two, others, parts⟩ :=
        exists_two_parts alternatives_ne_nil first.flat second.flat (flats rest)
      rw [flat, parts]
      rfl
  | intersection first second rest =>
      obtain ⟨one, two, others, parts⟩ :=
        exists_two_parts factors_ne_nil first.flat second.flat (flats rest)
      rw [flat, parts]
      rfl
  | _ => rfl

theorem isIntersection_flat (type : TypeTree) :
    type.flat.isIntersection = type.isIntersection := by
  cases type with
  | union first second rest =>
      obtain ⟨one, two, others, parts⟩ :=
        exists_two_parts alternatives_ne_nil first.flat second.flat (flats rest)
      rw [flat, parts]
      rfl
  | intersection first second rest =>
      obtain ⟨one, two, others, parts⟩ :=
        exists_two_parts factors_ne_nil first.flat second.flat (flats rest)
      rw [flat, parts]
      rfl
  | _ => rfl

theorem isFlat_union {first second : TypeTree} {rest : List TypeTree}
    (each : ∀ type ∈ first :: second :: rest, IsFlat type) :
    IsFlat (collapse .union ((first :: second :: rest).flatMap alternatives)) := by
  have inner : ∀ part ∈ (first :: second :: rest).flatMap alternatives,
      IsFlat part ∧ part.isUnion = false := by
    intro part member
    obtain ⟨type, listed, inside⟩ := List.mem_flatMap.mp member
    exact (each type listed).alternatives part inside
  obtain ⟨one, two, others, parts⟩ := exists_two_parts alternatives_ne_nil first second rest
  rw [parts] at inner ⊢
  exact .union (fun part member => (inner part member).1) fun part member => (inner part member).2

theorem isFlat_intersection {first second : TypeTree} {rest : List TypeTree}
    (each : ∀ type ∈ first :: second :: rest, IsFlat type) :
    IsFlat (collapse .intersection ((first :: second :: rest).flatMap factors)) := by
  have inner : ∀ part ∈ (first :: second :: rest).flatMap factors,
      IsFlat part ∧ part.isIntersection = false := by
    intro part member
    obtain ⟨type, listed, inside⟩ := List.mem_flatMap.mp member
    exact (each type listed).factors part inside
  obtain ⟨one, two, others, parts⟩ := exists_two_parts factors_ne_nil first second rest
  rw [parts] at inner ⊢
  exact .intersection (fun part member => (inner part member).1) fun part member =>
    (inner part member).2

mutual

theorem isFlat_flat : ∀ type : TypeTree, IsFlat type.flat
  | .name word => .name word
  | .number numeral => .number numeral
  | .flag value => .flag value
  | .string value => .string value
  | .array item => .array (isFlat_flat item)
  | .union first second rest =>
      isFlat_union (List.forall_mem_cons.mpr
        ⟨isFlat_flat first, List.forall_mem_cons.mpr ⟨isFlat_flat second, isFlat_flats rest⟩⟩)
  | .intersection first second rest =>
      isFlat_intersection (List.forall_mem_cons.mpr
        ⟨isFlat_flat first, List.forall_mem_cons.mpr ⟨isFlat_flat second, isFlat_flats rest⟩⟩)
  | .object members => .object (isFlat_flatMembers members)
  | .record value => .record (isFlat_flat value)

theorem isFlat_flats : ∀ types : List TypeTree, ∀ part ∈ flats types, IsFlat part
  | [] => List.forall_mem_nil _
  | type :: rest => List.forall_mem_cons.mpr ⟨isFlat_flat type, isFlat_flats rest⟩

theorem isFlat_flatMembers : ∀ members : List (Member TypeTree),
    ∀ member ∈ flatMembers members, IsFlat member.type
  | [] => List.forall_mem_nil _
  | ⟨_, type, _⟩ :: rest => List.forall_mem_cons.mpr ⟨isFlat_flat type, isFlat_flatMembers rest⟩

end

theorem joinTokens_append {mark : Char} {front behind : List (List Token)} (hasFront : front ≠ [])
    (hasBehind : behind ≠ []) :
    joinTokens mark (front ++ behind) =
      joinTokens mark front ++ .mark mark :: joinTokens mark behind := by
  induction front with
  | nil => exact absurd rfl hasFront
  | cons first others ih =>
      cases others with
      | nil =>
          cases behind with
          | nil => exact absurd rfl hasBehind
          | cons second rest => rfl
      | cons second rest =>
          have inner := ih (List.cons_ne_nil _ _)
          rw [List.cons_append] at inner
          rw [List.cons_append, List.cons_append, joinTokens_cons_cons, joinTokens_cons_cons,
            inner, List.append_assoc]
          rfl

/-- Joining the parts of all types is joining the types, each of which joins its own parts. -/
theorem joinTokens_flatMap {mark : Char} {parts : TypeTree → List TypeTree}
    {spell : TypeTree → List Token} (nonempty : ∀ type, parts type ≠ [])
    (joined : ∀ type, joinTokens mark ((parts type).map spell) = spell type)
    (types : List TypeTree) :
    joinTokens mark ((types.flatMap parts).map spell) = joinTokens mark (types.map spell) := by
  induction types with
  | nil => rfl
  | cons first others ih =>
      cases others with
      | nil =>
          rw [List.flatMap_cons, List.flatMap_nil, List.append_nil]
          exact joined first
      | cons second rest =>
          have hasFront : (parts first).map spell ≠ [] := by
            simpa using nonempty first
          have hasBehind : ((second :: rest).flatMap parts).map spell ≠ [] := by
            rw [List.flatMap_cons, List.map_append]
            exact List.append_ne_nil_of_left_ne_nil (by simpa using nonempty second) _
          rw [List.flatMap_cons, List.map_append, joinTokens_append hasFront hasBehind, joined, ih]
          rfl

theorem joinTokens_factors (type : TypeTree) :
    joinTokens '&' (type.factors.map factorSpelling) = factorSpelling type := by
  cases isUnion : type.isUnion with
  | false =>
      rw [← spelling_eq_factors isUnion, factorSpelling, isUnion]
      rfl
  | true =>
      cases type with
      | union => rfl
      | _ => cases isUnion

/-- Flattening a union changes nothing about its tokens. -/
theorem spelling_flat_union (first second : TypeTree) (rest : List TypeTree) :
    (collapse .union ((first :: second :: rest).flatMap alternatives)).spelling =
      joinTokens '|' (first.spelling :: second.spelling :: rest.map spelling) := by
  have joined := joinTokens_flatMap alternatives_ne_nil
    (fun type => (spelling_eq_alternatives type).symm) (first :: second :: rest)
  obtain ⟨one, two, others, parts⟩ := exists_two_parts alternatives_ne_nil first second rest
  rw [parts] at joined ⊢
  rw [collapse, spelling, spellings_eq_map]
  exact joined

theorem spelling_flat_intersection (first second : TypeTree) (rest : List TypeTree) :
    (collapse .intersection ((first :: second :: rest).flatMap factors)).spelling =
      joinTokens '&' (factorSpelling first :: factorSpelling second :: rest.map factorSpelling) := by
  have joined := joinTokens_flatMap factors_ne_nil joinTokens_factors (first :: second :: rest)
  obtain ⟨one, two, others, parts⟩ := exists_two_parts factors_ne_nil first second rest
  rw [parts] at joined ⊢
  rw [collapse, spelling, factorSpellings_eq_map]
  exact joined

mutual

/-- A type and its flat form spell the same tokens. -/
theorem spelling_flat : ∀ type : TypeTree, type.flat.spelling = type.spelling
  | .name _ => rfl
  | .number _ => rfl
  | .flag _ => rfl
  | .string _ => rfl
  | .array item => by
      rw [flat, spelling, spelling, isUnion_flat, isIntersection_flat, spelling_flat item]
  | .union first second rest => by
      rw [flat, spelling_flat_union, spelling_flat first, spelling_flat second,
        ← spellings_eq_map, spellings_flats rest, spelling]
  | .intersection first second rest => by
      rw [flat, spelling_flat_intersection, ← factorSpellings_eq_map, factorSpelling,
        factorSpelling, isUnion_flat, isUnion_flat, spelling_flat first, spelling_flat second,
        factorSpellings_flats rest, spelling]
  | .object members => by
      rw [flat, spelling, spelling, memberSpellings_flatMembers members]
  | .record value => by
      rw [flat, spelling, spelling, spelling_flat value]

theorem spellings_flats : ∀ types : List TypeTree, spellings (flats types) = spellings types
  | [] => rfl
  | type :: rest => by
      rw [flats, spellings, spellings, spelling_flat type, spellings_flats rest]

theorem factorSpellings_flats : ∀ types : List TypeTree,
    factorSpellings (flats types) = factorSpellings types
  | [] => rfl
  | type :: rest => by
      rw [flats, factorSpellings, factorSpellings, isUnion_flat, spelling_flat type,
        factorSpellings_flats rest]

theorem memberSpellings_flatMembers : ∀ members : List (Member TypeTree),
    memberSpellings (flatMembers members) = memberSpellings members
  | [] => rfl
  | ⟨key, type, isOptional⟩ :: rest => by
      rw [flatMembers, memberSpellings, memberSpellings, spelling_flat type,
        memberSpellings_flatMembers rest]

end

end TypeTree

end ClientGen.TypeScript
