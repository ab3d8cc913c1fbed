import ClientGen.Proofs.Identifier
import ClientGen.Proofs.UrlTemplate
import Mathlib.Data.List.Nodup

/-!
# Placeholders filled at once

A URL template is made by one search after the other, each through the text that the searches before
have left. Names without braces keep the searches apart from each other, so that all of them come
to a single pass over the path: text that was put in is never searched.
-/

namespace ClientGen

theorem Text.isSome_dropStart? (beginning cs : List Char) :
    (dropStart? beginning cs).isSome = beginning.isPrefixOf cs := by
  induction beginning generalizing cs with
  | nil => cases cs <;> rfl
  | cons p ps ih =>
      cases cs with
      | nil => rfl
      | cons c rest =>
          rw [dropStart?, List.isPrefixOf_cons_cons, ← ih]
          by_cases same : p = c
          · rw [if_pos same, beq_iff_eq.mpr same, Bool.true_and]
          · rw [if_neg same, beq_eq_false_iff_ne.mpr same, Bool.false_and]
            rfl

theorem Text.contains_iff (pattern cs : List Char) :
    contains pattern cs = true ↔ pattern <:+: cs := by
  induction cs with
  | nil => rw [contains, List.isEmpty_iff, List.infix_nil]
  | cons c rest ih =>
      rw [contains, Bool.or_eq_true, isSome_dropStart?, List.isPrefixOf_iff_prefix, ih,
        List.infix_cons_iff]

namespace Operation

open TypeScript (isIdentifierPart sanitizeIdentifier)

def hole (name : String) : List Char :=
  ("$" ++ braced name).toList

/-- Whether the placeholder of an entry begins a text. -/
def begins (cs : List Char) (entry : String × String) : Bool :=
  (braced entry.1).toList.isPrefixOf cs

/-- One pass over a text: where the placeholder of an entry begins, its hole is put and the pass
goes on behind the placeholder; every other character is copied. The number counts what is left of
a placeholder that has its hole already. -/
def fillFrom (entries : List (String × String)) : Nat → List Char → List Char
  | _, [] => []
  | skip + 1, _ :: rest => fillFrom entries skip rest
  | 0, c :: rest =>
      match entries.find? (begins (c :: rest)) with
      | some entry =>
          hole entry.2 ++ fillFrom entries ((braced entry.1).toList.length - 1) rest
      | none => c :: fillFrom entries 0 rest

/-- A text with the placeholders of all entries filled in one pass. -/
def fill (entries : List (String × String)) (text : String) : String :=
  String.ofList (fillFrom entries 0 text.toList)

/-- A name that does not hold a brace. -/
def Braceless (name : String) : Prop :=
  '\x7b' ∉ name.toList ∧ '\x7d' ∉ name.toList

/-- Entries that one pass can tell apart. -/
structure Fillable (entries : List (String × String)) : Prop where
  placeholders : ∀ entry ∈ entries, Braceless entry.1
  distinct : (entries.map Prod.fst).Nodup

theorem hole_eq_cons (name : String) :
    hole name = '$' :: '\x7b' :: (name.toList ++ ['\x7d']) := by
  rw [hole, String.toList_append, toList_braced]
  rfl

/-! ## Where placeholders begin -/

theorem begins_iff {cs : List Char} {entry : String × String} :
    begins cs entry = true ↔ (braced entry.1).toList <+: cs :=
  List.isPrefixOf_iff_prefix

theorem eq_of_common_start {first second : String} (plain : Braceless first)
    (other : Braceless second) {rest : List Char}
    (start : (braced first).toList <+: (braced second).toList ++ rest) : first = second := by
  obtain ⟨after, same⟩ := start
  rw [toList_braced, toList_braced] at same
  have parts : first.toList ++ '\x7d' :: after = second.toList ++ '\x7d' :: rest := by
    simpa using same
  have cut := congrArg (Text.splitOnce? '\x7d') parts
  rw [Text.splitOnce?_append plain.2, Text.splitOnce?_append other.2] at cut
  exact String.toList_inj.mp (Prod.mk.inj (Option.some.inj cut)).1

theorem not_braced_prefix_cons {name : String} {c : Char} (noBrace : c ≠ '\x7b')
    (rest : List Char) : ¬ (braced name).toList <+: c :: rest := by
  rw [toList_braced, List.cons_prefix_cons]
  exact fun begins => noBrace begins.1.symm

/-! ## The steps of a pass -/

section Pass

variable {entries : List (String × String)}

theorem fillFrom_length_append (passed rest : List Char) :
    fillFrom entries passed.length (passed ++ rest) = fillFrom entries 0 rest := by
  induction passed with
  | nil => rfl
  | cons c passed ih => exact ih

theorem fillFrom_copy {c : Char} {rest : List Char}
    (nowhere : ∀ entry ∈ entries, ¬ (braced entry.1).toList <+: c :: rest) :
    fillFrom entries 0 (c :: rest) = c :: fillFrom entries 0 rest := by
  have missed : entries.find? (begins (c :: rest)) = none := by
    apply List.find?_eq_none.mpr
    exact fun entry listed => mt begins_iff.mp (nowhere entry listed)
  rw [fillFrom, missed]

theorem fillFrom_hole (fillable : Fillable entries) {entry : String × String}
    (listed : entry ∈ entries) (rest : List Char) :
    fillFrom entries 0 ((braced entry.1).toList ++ rest) =
      hole entry.2 ++ fillFrom entries 0 rest := by
  obtain ⟨first, others, whole⟩ :
      ∃ first others, (braced entry.1).toList = first :: others := ⟨_, _, toList_braced _⟩
  have here : begins (first :: (others ++ rest)) entry := by
    rw [begins_iff, whole]
    exact ⟨rest, rfl⟩
  cases found : entries.find? (begins (first :: (others ++ rest))) with
  | none => exact absurd here (List.find?_eq_none.mp found entry listed)
  | some chosen =>
      -- No other placeholder begins here, so the one that is found is that of the entry.
      have member := List.mem_of_find?_eq_some found
      have same : chosen = entry := by
        have start := begins_iff.mp (List.find?_some found)
        rw [← List.cons_append, ← whole] at start
        have key := eq_of_common_start (fillable.placeholders chosen member)
          (fillable.placeholders entry listed) start
        exact List.inj_on_of_nodup_map fillable.distinct member listed key
      subst same
      rw [whole, List.cons_append, fillFrom, found]
      dsimp only
      rw [whole, List.length_cons, Nat.add_sub_cancel, fillFrom_length_append]

/-- Text without an opening brace is copied. -/
theorem fillFrom_append {copied : List Char} (noBrace : '\x7b' ∉ copied) (rest : List Char) :
    fillFrom entries 0 (copied ++ rest) = copied ++ fillFrom entries 0 rest := by
  induction copied with
  | nil => rfl
  | cons c copied ih =>
      obtain ⟨first, others⟩ := List.ne_and_not_mem_of_not_mem_cons noBrace
      rw [List.cons_append, fillFrom_copy, ih others, List.cons_append]
      exact fun entry _ => not_braced_prefix_cons (Ne.symm first) _

/-- A name between braces is copied unless it is the placeholder of an entry. -/
theorem fillFrom_braced (fillable : Fillable entries) {name : String} (plain : Braceless name)
    (other : ∀ entry ∈ entries, entry.1 ≠ name) (rest : List Char) :
    fillFrom entries 0 ((braced name).toList ++ rest) =
      (braced name).toList ++ fillFrom entries 0 rest := by
  have inside : '\x7b' ∉ name.toList ++ ['\x7d'] := by simp [plain.1]
  rw [toList_braced, List.cons_append, fillFrom_copy, fillFrom_append inside, List.cons_append]
  intro entry listed begins
  rw [← List.cons_append, ← toList_braced] at begins
  exact other entry listed (eq_of_common_start (fillable.placeholders entry listed) plain begins)

theorem fillFrom_hole_append (fillable : Fillable entries) {name : String}
    (plain : Braceless name) (other : ∀ entry ∈ entries, entry.1 ≠ name) (rest : List Char) :
    fillFrom entries 0 (hole name ++ rest) = hole name ++ fillFrom entries 0 rest := by
  rw [hole, String.toList_append, List.append_assoc, List.append_assoc, fillFrom_append (by decide),
    fillFrom_braced fillable plain other]

/-- What a pass leaves behind begins like a name with its closing brace only if the text did. -/
theorem closed_prefix_of_fillFrom {name : List Char} (noBrace : '\x7b' ∉ name) {cs : List Char}
    (start : name ++ ['\x7d'] <+: fillFrom entries 0 cs) : name ++ ['\x7d'] <+: cs := by
  induction name generalizing cs with
  | nil =>
      cases cs with
      | nil => exact start
      | cons c rest =>
          rw [fillFrom] at start
          split at start
          · rw [hole_eq_cons] at start
            have dollar : '\x7d' = '$' := (List.cons_prefix_cons.mp start).1
            cases dollar
          · have brace : '\x7d' = c := (List.cons_prefix_cons.mp start).1
            exact List.cons_prefix_cons.mpr ⟨brace, List.nil_prefix⟩
  | cons first name ih =>
      obtain ⟨-, others⟩ := List.ne_and_not_mem_of_not_mem_cons noBrace
      cases cs with
      | nil => exact start
      | cons c rest =>
          rw [fillFrom] at start
          split at start
          · -- A hole opens a brace behind its dollar sign.
            rw [hole_eq_cons] at start
            have second := (List.cons_prefix_cons.mp start).2
            cases name with
            | nil =>
                have brace : '\x7d' = '\x7b' := (List.cons_prefix_cons.mp second).1
                cases brace
            | cons next name =>
                have opening : next = '\x7b' := (List.cons_prefix_cons.mp second).1
                exact absurd (List.mem_cons.mpr (.inl opening.symm)) others
          · obtain ⟨same, behind⟩ := List.cons_prefix_cons.mp start
            exact List.cons_prefix_cons.mpr ⟨same, ih others behind⟩

/-- What a pass goes through: placeholders of its entries, and characters at which none begins. -/
theorem pass_induction (entries : List (String × String)) {P : List Char → Prop} (nil : P [])
    (placeholder : ∀ entry ∈ entries, ∀ rest, P rest → P ((braced entry.1).toList ++ rest))
    (character : ∀ c rest, (∀ entry ∈ entries, ¬ (braced entry.1).toList <+: c :: rest) →
      P rest → P (c :: rest)) (cs : List Char) : P cs := by
  induction h : cs.length using Nat.strongRecOn generalizing cs with
  | ind length ih =>
      cases cs with
      | nil => exact nil
      | cons c rest =>
          by_cases here : ∃ entry ∈ entries, (braced entry.1).toList <+: c :: rest
          · obtain ⟨entry, listed, after, whole⟩ := here
            have shorter : after.length < length := by
              rw [← h, ← whole, List.length_append, toList_braced]
              simp
            rw [← whole]
            exact placeholder entry listed after (ih _ shorter after rfl)
          · have shorter : rest.length < length := by
              rw [← h]
              exact Nat.lt_succ_self _
            apply character c rest _ (ih _ shorter rest rfl)
            exact fun entry listed start => here ⟨entry, listed, start⟩

end Pass

/-! ## Several passes -/

theorem Fillable.of_append {first second : List (String × String)}
    (fillable : Fillable (first ++ second)) : Fillable first ∧ Fillable second := by
  obtain ⟨placeholders, distinct⟩ := fillable
  rw [List.map_append] at distinct
  exact ⟨⟨fun entry listed => placeholders entry (List.mem_append_left _ listed),
      List.Nodup.of_append_left distinct⟩,
    ⟨fun entry listed => placeholders entry (List.mem_append_right _ listed),
      List.Nodup.of_append_right distinct⟩⟩

/-- Two passes come to one, if no placeholder of the second pass is a name that the first puts. -/
theorem fillFrom_fillFrom {first second : List (String × String)}
    (fillable : Fillable (first ++ second)) (plain : ∀ entry ∈ first, Braceless entry.2)
    (settled : ∀ entry ∈ first, ∀ later ∈ second, later.1 ≠ entry.2) (cs : List Char) :
    fillFrom second 0 (fillFrom first 0 cs) = fillFrom (first ++ second) 0 cs := by
  obtain ⟨firstFillable, secondFillable⟩ := fillable.of_append
  have apart : ∀ entry ∈ first, ∀ later ∈ second, entry.1 ≠ later.1 := by
    have distinct := fillable.distinct
    rw [List.map_append, List.nodup_append] at distinct
    intro entry listed later follows
    exact distinct.2.2 _ (List.mem_map_of_mem listed) _ (List.mem_map_of_mem follows)
  induction cs using pass_induction (first ++ second) with
  | nil => rfl
  | placeholder entry listed rest ih =>
      rw [fillFrom_hole fillable listed]
      rcases List.mem_append.mp listed with inFirst | inSecond
      · rw [fillFrom_hole firstFillable inFirst,
          fillFrom_hole_append secondFillable (plain entry inFirst) (settled entry inFirst), ih]
      · have other : ∀ earlier ∈ first, earlier.1 ≠ entry.1 :=
          fun earlier given => apart earlier given entry inSecond
        rw [fillFrom_braced firstFillable (secondFillable.placeholders entry inSecond) other,
          fillFrom_hole secondFillable inSecond, ih]
  | character c rest nowhere ih =>
      rw [fillFrom_copy nowhere, fillFrom_copy fun entry listed =>
        nowhere entry (List.mem_append_left _ listed), fillFrom_copy, ih]
      -- The first pass makes no placeholder of the second one.
      intro entry listed start
      apply nowhere entry (List.mem_append_right _ listed)
      rw [toList_braced, List.cons_prefix_cons] at start ⊢
      exact start.imp_right
        (closed_prefix_of_fillFrom (secondFillable.placeholders entry listed).1)

/-- The order of the entries does not matter. -/
theorem fillFrom_perm {entries others : List (String × String)} (same : entries.Perm others)
    (fillable : Fillable entries) (otherFillable : Fillable others) (cs : List Char) :
    fillFrom entries 0 cs = fillFrom others 0 cs := by
  induction cs using pass_induction entries with
  | nil => rfl
  | placeholder entry listed rest ih =>
      rw [fillFrom_hole fillable listed, fillFrom_hole otherFillable (same.mem_iff.mp listed), ih]
  | character c rest nowhere ih =>
      rw [fillFrom_copy nowhere, ih, fillFrom_copy]
      exact fun entry listed => nowhere entry (same.mem_iff.mpr listed)

/-! ## One search is one pass -/

theorem replaceFrom_eq_fillFrom (placeholder name : String) (skip : Nat) (cs : List Char) :
    Text.replaceFrom (braced placeholder).toList ("$" ++ braced name).toList skip cs =
      fillFrom [(placeholder, name)] skip cs := by
  induction cs generalizing skip with
  | nil => cases skip <;> rfl
  | cons c rest ih =>
      cases skip with
      | succ skip => exact ih skip
      | zero =>
          rw [Text.replaceFrom, fillFrom, List.find?_cons, ih, ih, begins, Text.isSome_dropStart?]
          cases (braced placeholder).toList.isPrefixOf (c :: rest) <;> rfl

theorem replace_eq_fill (placeholder name text : String) :
    Text.replace (braced placeholder) ("$" ++ braced name) text =
      fill [(placeholder, name)] text := by
  rw [Text.replace, fill, replaceFrom_eq_fillFrom]

/-- Searches one after the other are one pass, if none looks for a name that was put before. -/
theorem foldl_replace_eq_fill {entries : List (String × String)} (fillable : Fillable entries)
    (plain : ∀ entry ∈ entries, Braceless entry.2)
    (settled : entries.Pairwise fun entry later => later.1 ≠ entry.2) (text : String) :
    entries.foldl (fun url (placeholder, name) =>
      Text.replace (braced placeholder) ("$" ++ braced name) url) text = fill entries text := by
  induction entries generalizing text with
  | nil =>
      rw [List.foldl_nil, fill]
      have copied : ∀ cs, fillFrom [] 0 cs = cs := by
        intro cs
        induction cs with
        | nil => rfl
        | cons c rest ih => exact congrArg (c :: ·) ih
      rw [copied, String.ofList_toList]
  | cons entry rest ih =>
      obtain ⟨placeholder, name⟩ := entry
      obtain ⟨first, others⟩ := List.pairwise_cons.mp settled
      obtain ⟨plainFirst, plainOthers⟩ := List.forall_mem_cons.mp plain
      have whole : Fillable ([(placeholder, name)] ++ rest) := fillable
      have merged := fillFrom_fillFrom whole (List.forall_mem_singleton.mpr plainFirst)
        (List.forall_mem_singleton.mpr first) text.toList
      rw [List.foldl_cons, ih whole.of_append.2 plainOthers others]
      dsimp only
      rw [replace_eq_fill, fill, fill, String.toList_ofList, merged]
      rfl

/-! ## URL templates -/

theorem braceless_sanitizeIdentifier (name : String) : Braceless (sanitizeIdentifier name) := by
  have parts := TypeScript.parts_of_isIdentifier (TypeScript.isIdentifier_sanitizeIdentifier name)
  exact ⟨fun listed => absurd (parts _ listed) (by decide),
    fun listed => absurd (parts _ listed) (by decide)⟩

/-- What is put for an earlier placeholder is no later placeholder: it would be filled with itself,
and the names that fill placeholders are distinct. -/
theorem settled_of_sanitized {entries : List (String × String)}
    (sanitized : ∀ entry ∈ entries, entry.2 = sanitizeIdentifier entry.1)
    (distinct : (entries.map Prod.snd).Nodup) :
    entries.Pairwise fun entry later => later.1 ≠ entry.2 := by
  apply List.Pairwise.imp_of_mem _ (List.pairwise_map.mp distinct)
  intro entry later listed follows different same
  apply different
  calc entry.2 = sanitizeIdentifier entry.1 := sanitized entry listed
    _ = sanitizeIdentifier (sanitizeIdentifier entry.1) :=
        (TypeScript.sanitizeIdentifier_sanitizeIdentifier _).symm
    _ = sanitizeIdentifier later.1 := by rw [same, sanitized entry listed]
    _ = later.2 := (sanitized later follows).symm

/-- A URL template is its path, with backquotes escaped, in which one pass fills the placeholders
of all entries. So the order of the entries does not matter, and nothing that was put in for one
entry is searched for another. -/
theorem urlTemplate_eq_fill (path : String) {entries : List (String × String)}
    (plain : ∀ entry ∈ entries, Braceless entry.1)
    (sanitized : ∀ entry ∈ entries, entry.2 = sanitizeIdentifier entry.1)
    (distinct : (entries.map Prod.snd).Nodup) :
    urlTemplate path entries = fill entries (Text.replace "\x60" "\\\x60" path) ∧
      ∀ others, entries.Perm others → urlTemplate path others = urlTemplate path entries := by
  have atOnce : ∀ given : List (String × String), given.Perm entries →
      Fillable given ∧
        urlTemplate path given = fill given (Text.replace "\x60" "\\\x60" path) := by
    intro given same
    have sanitizedGiven : ∀ entry ∈ given, entry.2 = sanitizeIdentifier entry.1 :=
      fun entry listed => sanitized entry (same.mem_iff.mp listed)
    have distinctGiven := (same.map Prod.snd).nodup_iff.mpr distinct
    have fillable : Fillable given := by
      refine ⟨fun entry listed => plain entry (same.mem_iff.mp listed), ?_⟩
      apply List.Nodup.of_map sanitizeIdentifier
      rw [List.map_map]
      rwa [List.map_congr_left sanitizedGiven] at distinctGiven
    refine ⟨fillable, foldl_replace_eq_fill fillable ?_
      (settled_of_sanitized sanitizedGiven distinctGiven) _⟩
    intro entry listed
    rw [sanitizedGiven entry listed]
    exact braceless_sanitizeIdentifier _
  obtain ⟨fillable, whole⟩ := atOnce entries (.refl _)
  refine ⟨whole, fun others same => ?_⟩
  obtain ⟨otherFillable, other⟩ := atOnce others same.symm
  rw [other, whole, fill, fill, fillFrom_perm same fillable otherFillable]

/-- Of two placeholders neither is disturbed by what fills the other, in either order. -/
theorem urlTemplate_eq_fill_users :
    urlTemplate "/users/\x7buser-id\x7d/\x60\x7bid\x7d" [("user-id", "userId"), ("id", "id")] =
        "/users/$\x7buserId\x7d/\\\x60$\x7bid\x7d" ∧
      urlTemplate "/users/\x7buser-id\x7d/\x60\x7bid\x7d" [("id", "id"), ("user-id", "userId")] =
        "/users/$\x7buserId\x7d/\\\x60$\x7bid\x7d" := by
  have plain : ∀ entry ∈ [("user-id", "userId"), ("id", "id")], Braceless entry.1 := by
    unfold Braceless
    decide
  have sanitized : ∀ entry ∈ [("user-id", "userId"), ("id", "id")],
      entry.2 = sanitizeIdentifier entry.1 := by decide
  obtain ⟨whole, anyOrder⟩ := urlTemplate_eq_fill "/users/\x7buser-id\x7d/\x60\x7bid\x7d"
    plain sanitized (by decide)
  have filled : fill [("user-id", "userId"), ("id", "id")]
      (Text.replace "\x60" "\\\x60" "/users/\x7buser-id\x7d/\x60\x7bid\x7d") =
        "/users/$\x7buserId\x7d/\\\x60$\x7bid\x7d" := by decide
  exact ⟨whole.trans filled,
    (anyOrder _ (List.Perm.swap _ _ _)).trans (whole.trans filled)⟩

end Operation

end ClientGen
