import ClientGen.Proofs.Codec
import ClientGen.Proofs.KeyOrder

/-!
# What a record is read from

A record is read from an object exactly when each of its fields is: from the one member under the
name of the field, or from its default where there is none. A list is read item by item.
-/

namespace ClientGen

theorem except_map_eq_ok_iff {ε α β : Type} {make : α → β} {outcome : Except ε α} {b : β} :
    outcome.map make = .ok b ↔ ∃ a, outcome = .ok a ∧ b = make a := by
  cases outcome with
  | error fault => simp [Except.map]
  | ok a => simp [Except.map, eq_comm]

theorem exists_map_eq_ok_iff {ε α β : Type} {make : α → β} {outcome : Except ε α} :
    (∃ b, outcome.map make = .ok b) ↔ ∃ a, outcome = .ok a := by
  simp [except_map_eq_ok_iff]

theorem exists_mapM_eq_ok_iff {ε σ α : Type} {read : σ → Except ε α} {given : List σ} :
    (∃ found, given.mapM read = .ok found) ↔ ∀ item ∈ given, ∃ a, read item = .ok a := by
  induction given with
  | nil => simp [pure, Except.pure]
  | cons item rest ih =>
      rw [List.forall_mem_cons, ← ih, List.mapM_cons]
      cases read item <;> cases rest.mapM read <;> simp [bind, Except.bind, pure, Except.pure]

namespace Fields

variable {α β : Type} {members : Members}

theorem read_map_iff {make : α → β} {x : Fields α} {b : β} :
    (make <$> x).Read members b ↔ ∃ a, x.Read members a ∧ b = make a := by
  constructor
  · intro read
    change (Fields.seq (Fields.pure make) x).ofMembers members = .ok b at read
    rw [Fields.seq, Fields.pure] at read
    cases given : x.ofMembers members with
    | error fault => simp [given] at read
    | ok a =>
        simp only [given, Except.ok.injEq] at read
        exact ⟨a, given, read.symm⟩
  · rintro ⟨a, given, rfl⟩
    exact given.map make

theorem read_seq_iff {f : Fields (α → β)} {x : Fields α} {b : β} :
    (f <*> x).Read members b ↔
      ∃ make a, f.Read members make ∧ x.Read members a ∧ b = make a := by
  constructor
  · intro read
    change (Fields.seq f x).ofMembers members = .ok b at read
    rw [Fields.seq] at read
    cases first : f.ofMembers members with
    | error fault =>
        cases second : x.ofMembers members <;> simp [first, second] at read
    | ok make =>
        cases second : x.ofMembers members with
        | error fault => simp [first, second] at read
        | ok a =>
            simp only [first, second, Except.ok.injEq] at read
            exact ⟨make, a, first, second, read.symm⟩
  · rintro ⟨make, a, first, second, rfl⟩
    exact first.seq second

theorem exists_seq_iff {f : Fields (α → β)} {x : Fields α} :
    (∃ b, (f <*> x).ofMembers members = .ok b) ↔
      (∃ make, f.ofMembers members = .ok make) ∧ ∃ a, x.ofMembers members = .ok a := by
  constructor
  · rintro ⟨b, read⟩
    obtain ⟨make, a, first, second, -⟩ := read_seq_iff.mp read
    exact ⟨⟨make, first⟩, a, second⟩
  · rintro ⟨⟨make, first⟩, a, second⟩
    exact ⟨_, read_seq_iff.mpr ⟨make, a, first, second, rfl⟩⟩

theorem key_of_mem_under {name : String} {entry : String × Json}
    (listed : entry ∈ under [name] members) : entry.1 = name :=
  List.mem_singleton.mp (List.contains_iff_mem.mp (List.mem_filter.mp listed).2)

theorem under_around (name : String) (value : Json) (before after : Members) :
    under [name] (before ++ (name, value) :: after) =
      under [name] before ++ (name, value) :: under [name] after := by
  simp

/-- A field sees of an object the members of its name only. -/
theorem field_congr {name : String} {absent short : Option α} {decode : Decoder α}
    {others : Members} (same : under [name] others = under [name] members) :
    (field [name] absent short decode).ofMembers others =
      (field [name] absent short decode).ofMembers members := by
  simp only [field, same]

/-- A field is read from the one member of its name, or takes its default. -/
theorem read_field_iff {name : String} {absent short : Option α} {decode : Decoder α} {a : α} :
    (field [name] absent short decode).Read members a ↔
      under [name] members = [] ∧ absent = some a ∨
        ∃ value, under [name] members = [(name, value)] ∧ decode value = .ok a := by
  constructor
  · intro read
    rw [Read, field] at read
    dsimp only at read
    split at read
    · rename_i missing
      cases absent with
      | none => cases read
      | some default => exact .inl ⟨missing, congrArg some (Except.ok.inj read)⟩
    · rename_i key value found
      obtain rfl : key = name := key_of_mem_under (by rw [found]; exact List.mem_cons_self)
      cases decoded : decode value with
      | error fault => simp [decoded] at read
      | ok result =>
          simp only [decoded, Except.ok.injEq] at read
          exact .inr ⟨value, found, decoded.trans (congrArg Except.ok read)⟩
    · split at read <;> cases read
  · rintro (⟨missing, rfl⟩ | ⟨value, found, decoded⟩)
    · exact Read.leftOut missing
    · exact Read.field found decoded

/-- Where there are members under the name of a field, it is read if there is one only. -/
theorem read_member_iff {name : String} {absent short : Option α} {decode : Decoder α}
    {before after : Members} {value : Json} {a : α}
    (found : under [name] members = before ++ (name, value) :: after) :
    (field [name] absent short decode).Read members a ↔
      decode value = .ok a ∧ before = [] ∧ after = [] := by
  rw [read_field_iff, found]
  rcases before with _ | ⟨_, _⟩
  · cases after <;> simp
  · simp

theorem exists_member_iff {name : String} {absent short : Option α} {decode : Decoder α}
    {before after : Members} {value : Json}
    (found : under [name] members = before ++ (name, value) :: after) :
    (∃ a, (field [name] absent short decode).ofMembers members = .ok a) ↔
      (∃ a, decode value = .ok a) ∧ before = [] ∧ after = [] := by
  rw [← exists_and_right]
  exact exists_congr fun _ => read_member_iff found

theorem read_required_iff {name : String} {decode : Decoder α} {a : α} :
    (required name decode).Read members a ↔
      ∃ value, under [name] members = [(name, value)] ∧ decode value = .ok a := by
  rw [required, read_field_iff]
  simp

end Fields

namespace Decoder

variable {α : Type}

theorem mapM_eq_ok_iff {β : Type} {read : α → Except DecodeError β} {given : List α}
    {found : List β} :
    given.mapM read = .ok found ↔ List.Forall₂ (fun a b => read a = .ok b) given found := by
  refine ⟨Yields.forall₂_of_mapM, fun every => ?_⟩
  induction every with
  | nil => rfl
  | cons first _ ih =>
      rw [List.mapM_cons, first, ih]
      rfl

theorem mapM_eq_ok_iff_map {β : Type} {read : α → Except DecodeError β} {given : List α}
    {found : List β} : given.mapM read = .ok found ↔ given.map read = found.map .ok := by
  rw [mapM_eq_ok_iff, ← List.forall₂_eq_eq_eq, List.forall₂_map_left_iff,
    List.forall₂_map_right_iff]

theorem record_eq_ok_iff {name : String} {fields : Fields α} {members : Members} {a : α} :
    record name fields (.object members) = .ok a ↔ fields.Read members a := by
  rw [record, objectRecord, Fields.Read]
  · cases fields.ofMembers members <;> simp [Except.mapError]
  · exact fun _ => Json.noConfusion

theorem optional_of_ne_null {decode : Decoder α} {value : Json} (present : value ≠ .null) :
    optional decode value = (decode value).map some := by
  cases value <;> first | rfl | exact absurd rfl present

theorem list_eq_ok_iff {decode : Decoder α} {value : Json} {found : List α} :
    list decode value = .ok found ↔
      ∃ items, value = .array items ∧
        List.Forall₂ (fun item a => decode item = .ok a) items found := by
  cases value with
  | array items => simp [list, mapM_eq_ok_iff]
  | _ => simp [list, reject]

theorem firstOf_two_eq_ok_iff {type : String} {first second : Decoder α} {value : Json} {a : α} :
    firstOf type [first, second] value = .ok a ↔
      first value = .ok a ∨ (∀ b, first value ≠ .ok b) ∧ second value = .ok a := by
  simp only [firstOf]
  cases first value with
  | ok b => simp
  | error fault => cases second value <;> simp

theorem shaped_eq_ok_iff {name : String} {own : Fields (Shaping → α)} {members : Members} {a : α} :
    shaped name own (.object members) = .ok a ↔
      ∃ build shaping, own.Read members build ∧
        (Shaping.fields countedRecord).Read members shaping ∧ a = build shaping := by
  unfold shaped Fields.Read
  cases first : own.ofMembers members with
  | error fault => simp [first]
  | ok build =>
      cases second : (Shaping.fields countedRecord).ofMembers members with
      | error fault => simp [first, second]
      | ok shaping => simp [first, second, eq_comm]

end Decoder

end ClientGen
