import ClientGen.Proofs.FlatType

/-!
# Reading the tokens of types

A flat tree is read back from the tokens that it spells. The readers go level by level, and the
mark that follows a part never belongs to the level of the part, so every reader stops where the
part ends.
-/

namespace ClientGen.TypeScript

open TypeTree (IsFlat factorSpelling memberSpelling)

/-! ## Where readers stop -/

/-- Tokens that begin with none of the marks. -/
def Stops (stops : List Char) (rest : List Token) : Prop :=
  ∀ mark ∈ stops, afterMark? mark rest = none

theorem afterMark?_self (mark : Char) (rest : List Token) :
    afterMark? mark (.mark mark :: rest) = some rest :=
  if_pos rfl

theorem afterMark?_other {mark other : Char} (different : other ≠ mark) (rest : List Token) :
    afterMark? mark (.mark other :: rest) = none :=
  if_neg different

theorem stops_mark {stops : List Char} {mark : Char} (other : mark ∉ stops) (rest : List Token) :
    Stops stops (.mark mark :: rest) := by
  intro stop member
  apply afterMark?_other
  rintro rfl
  exact other member

theorem Stops.mono {stops fewer : List Char} {rest : List Token} (stopped : Stops stops rest)
    (subset : fewer ⊆ stops) : Stops fewer rest :=
  fun mark member => stopped mark (subset member)

theorem stops_nil (stops : List Char) : Stops stops [] :=
  fun _ _ => rfl

/-! ## Parts in a row -/

theorem length_le_joinTokens {α : Type} (mark : Char) (spell : α → List Token) {parts : List α}
    {part : α} (member : part ∈ parts) :
    (spell part).length ≤ (joinTokens mark (parts.map spell)).length := by
  induction parts with
  | nil => cases member
  | cons first others ih =>
      cases others with
      | nil =>
          obtain rfl := List.mem_singleton.mp member
          exact Nat.le_refl _
      | cons second rest =>
          rw [List.map_cons, List.map_cons, joinTokens_cons_cons, List.length_append,
            List.length_cons]
          rcases List.mem_cons.mp member with rfl | behind
          · omega
          · have bound := ih behind
            rw [List.map_cons] at bound
            omega

/-- There is a mark between any two parts. -/
theorem count_le_joinTokens (mark : Char) (spelled : List (List Token)) :
    spelled.length ≤ (joinTokens mark spelled).length + 1 := by
  induction spelled with
  | nil => exact Nat.zero_le _
  | cons first others ih =>
      cases others with
      | nil => exact Nat.le_add_left _ _
      | cons second rest =>
          simp only [joinTokens_cons_cons, List.length_append, List.length_cons] at ih ⊢
          omega

theorem Reader.separated_of_count {α : Type} {mark : Char} {item : Reader α}
    {spell : α → List Token} {stops : List Char} (passed : mark ∉ stops) {parts : List α}
    (reads : ∀ part ∈ parts, ∀ rest, Stops stops rest →
      item (spell part ++ rest) = some (part, rest))
    (nonempty : parts ≠ []) {rest : List Token} (stopped : Stops (mark :: stops) rest)
    {count : Nat} (enough : parts.length ≤ count) :
    separated mark item count (joinTokens mark (parts.map spell) ++ rest) = some (parts, rest) := by
  induction parts generalizing count with
  | nil => exact absurd rfl nonempty
  | cons first others ih =>
      cases count with
      | zero => cases enough
      | succ count =>
          have readFirst := reads first List.mem_cons_self
          cases others with
          | nil =>
              have last := stopped mark List.mem_cons_self
              have read := readFirst rest (stopped.mono (List.subset_cons_self _ _))
              rw [List.map_singleton, joinTokens, separated, read, Option.bind_some]
              simp only [last]
          | cons second behind =>
              have readOthers := ih (fun part member => reads part (List.mem_cons_of_mem _ member))
                (List.cons_ne_nil _ _) (Nat.le_of_succ_le_succ enough)
              rw [List.map_cons, List.map_cons, joinTokens_cons_cons, List.append_assoc,
                List.cons_append, separated, readFirst _ (stops_mark passed _), Option.bind_some]
              simp only [afterMark?_self]
              rw [← List.map_cons, readOthers]
              rfl

theorem Reader.separated_joinTokens {α : Type} {mark : Char} {item : Reader α}
    {spell : α → List Token} {stops : List Char} (passed : mark ∉ stops) {parts : List α}
    (reads : ∀ part ∈ parts, ∀ rest, Stops stops rest →
      item (spell part ++ rest) = some (part, rest))
    (nonempty : parts ≠ []) {rest : List Token} (stopped : Stops (mark :: stops) rest) :
    separated mark item ((joinTokens mark (parts.map spell) ++ rest).length + 1)
      (joinTokens mark (parts.map spell) ++ rest) = some (parts, rest) := by
  apply separated_of_count passed reads nonempty stopped
  have enough := count_le_joinTokens mark (parts.map spell)
  rw [List.length_map] at enough
  rw [List.length_append]
  omega

namespace Reader

/-! ## Primary types -/

theorem arrays_of_stops {rest : List Token} (stopped : Stops ['['] rest) (type : TypeTree) :
    arrays type rest = (type, rest) := by
  unfold arrays
  split
  · have found := stopped '[' List.mem_cons_self
    rw [afterMark?_self] at found
    cases found
  · rfl

theorem afterRecord?_of_stops {rest : List Token} (stopped : Stops ['<'] rest) (text : String) :
    afterRecord? (.word text :: rest) = none := by
  unfold afterRecord?
  split
  · rename_i opening key comma inside same
    cases same
    rw [if_neg]
    rintro ⟨-, rfl, -⟩
    have found := stopped '<' List.mem_cons_self
    rw [afterMark?_self] at found
    cases found
  · rfl

theorem word_of_reference (name : TypeWord) (rest : List Token) :
    word name.text rest = some (.name name, rest) := by
  have reference := name.isReference
  have notTrue : name.text ≠ "true" := by
    intro same
    rw [same] at reference
    revert reference
    decide
  have notFalse : name.text ≠ "false" := by
    intro same
    rw [same] at reference
    revert reference
    decide
  rw [word, if_neg notTrue, if_neg notFalse, dif_pos reference]

section Levels

/-- What follows a type: nothing that belongs to it. -/
def typeStops : List Char := ['|', '&', '[', '<']

variable {type : Reader TypeTree} {depth : Nat}

/-- A reader of types that spell less than the given number of tokens. -/
def Reads (type : Reader TypeTree) (depth : Nat) : Prop :=
  ∀ tree, IsFlat tree → tree.spelling.length < depth → ∀ rest, Stops typeStops rest →
    type (tree.spelling ++ rest) = some (tree, rest)

theorem primary_enclosed (reads : Reads type depth) {tree : TypeTree} (isFlat : IsFlat tree)
    (short : tree.spelling.length < depth) (rest : List Token) :
    primary type (enclosed true tree.spelling ++ rest) = some (tree, rest) := by
  have inside := reads tree isFlat short (.mark ')' :: rest) (stops_mark (by decide) rest)
  have spelled : enclosed true tree.spelling ++ rest =
      .mark '(' :: (tree.spelling ++ .mark ')' :: rest) := by
    simp [enclosed]
  rw [spelled, primary, if_pos rfl, inside, Option.bind_some]
  simp only [afterMark?_self, Option.map_some]

theorem member_memberSpelling (reads : Reads type depth) {given : Member TypeTree}
    (isFlat : IsFlat given.type) (short : given.type.spelling.length < depth) {rest : List Token}
    (stopped : Stops typeStops rest) :
    member type (memberSpelling given ++ rest) = some (given, rest) := by
  have inside := reads given.type isFlat short rest stopped
  obtain ⟨name, tree, isOptional⟩ := given
  have keyRead (behind : List Token) :
      key ((if needsQuoting name then .string name else .word name) :: behind) =
        some (name, behind) := by
    split <;> rfl
  rw [memberSpelling, TypeTree.keySpelling, List.cons_append, List.cons_append, member, keyRead,
    Option.bind_some]
  cases isOptional with
  | true =>
      simp only [if_true, List.cons_append, List.nil_append, afterMark?_self, Option.bind_some]
      rw [inside]
      rfl
  | false =>
      have noQuestion (behind : List Token) : afterMark? '?' (.mark ':' :: behind) = none :=
        afterMark?_other (by decide) behind
      simp only [Bool.false_eq_true, if_false, List.cons_append, List.nil_append, noQuestion,
        afterMark?_self, Option.bind_some]
      rw [inside]
      rfl

theorem afterMark?_memberSpelling (mark : Char) (given : Member TypeTree) (rest : List Token) :
    afterMark? mark (memberSpelling given ++ rest) = none := by
  rw [memberSpelling, TypeTree.keySpelling]
  split <;> rfl

theorem object_memberSpellings (reads : Reads type depth) {members : List (Member TypeTree)}
    (isFlat : ∀ member ∈ members, IsFlat member.type)
    (short : (joinTokens ';' (members.map memberSpelling)).length < depth) (rest : List Token) :
    object type (joinTokens ';' (members.map memberSpelling) ++ .mark '\x7d' :: rest) =
      some (.object members, rest) := by
  cases members with
  | nil =>
      rw [List.map_nil, joinTokens, List.nil_append, object, afterMark?_self]
  | cons first others =>
      have readEach : ∀ given ∈ first :: others, ∀ rest, Stops typeStops rest →
          member type (memberSpelling given ++ rest) = some (given, rest) := by
        intro given listed rest stopped
        have bound := length_le_joinTokens ';' memberSpelling listed
        have inner : given.type.spelling.length ≤ (memberSpelling given).length := by
          rw [memberSpelling, List.length_append]
          omega
        exact member_memberSpelling reads (isFlat given listed) (by omega) stopped
      have notEnd : afterMark? '\x7d' (joinTokens ';' ((first :: others).map memberSpelling) ++
          .mark '\x7d' :: rest) = none := by
        cases others with
        | nil => exact afterMark?_memberSpelling _ first _
        | cons second behind =>
            rw [List.map_cons, List.map_cons, joinTokens_cons_cons, List.append_assoc]
            exact afterMark?_memberSpelling _ first _
      have passed : ';' ∉ typeStops := by decide
      have closing : '\x7d' ∉ ';' :: typeStops := by decide
      have read := separated_joinTokens passed readEach (List.cons_ne_nil _ _)
        (stops_mark closing rest)
      rw [object, notEnd]
      simp only [read, Option.bind_some, afterMark?_self, Option.map_some]

theorem primary_spelling (reads : Reads type depth) {tree : TypeTree} (isFlat : IsFlat tree)
    (noUnion : tree.isUnion = false) (noIntersection : tree.isIntersection = false)
    (noArray : ∀ item, tree ≠ .array item) (short : tree.spelling.length ≤ depth)
    {rest : List Token} (stopped : Stops ['<'] rest) :
    primary type (tree.spelling ++ rest) = some (tree, rest) := by
  cases isFlat with
  | name name =>
      rw [TypeTree.spelling, List.singleton_append, primary, afterRecord?_of_stops stopped]
      exact word_of_reference name rest
  | number numeral =>
      rw [TypeTree.spelling, List.singleton_append, primary, dif_pos numeral.isNumeral]
  | flag value =>
      rw [TypeTree.spelling, List.singleton_append, primary, afterRecord?_of_stops stopped]
      cases value <;> rfl
  | string value => rfl
  | array inner => exact absurd rfl (noArray _)
  | union => cases noUnion
  | intersection => cases noIntersection
  | @object members inner =>
      have spelled : (TypeTree.object members).spelling ++ rest =
          .mark '\x7b' :: (joinTokens ';' (members.map memberSpelling) ++ .mark '\x7d' :: rest) := by
        rw [TypeTree.spelling, TypeTree.memberSpellings_eq_map, List.cons_append,
          List.append_assoc]
        rfl
      have inside : (joinTokens ';' (members.map memberSpelling)).length < depth := by
        rw [TypeTree.spelling, TypeTree.memberSpellings_eq_map, List.length_cons,
          List.length_append] at short
        omega
      rw [spelled, primary, if_neg (by decide), if_pos rfl]
      exact object_memberSpellings reads inner inside rest
  | @record value inner =>
      have spelled : (TypeTree.record value).spelling ++ rest =
          .word "Record" :: .mark '<' :: .word "string" :: .mark ',' ::
            (value.spelling ++ .mark '>' :: rest) := by
        simp [TypeTree.spelling]
      have inside : value.spelling.length < depth := by
        rw [TypeTree.spelling, List.length_append, List.length_append] at short
        simp only [List.length_cons] at short
        omega
      have read := reads value inner inside (.mark '>' :: rest) (stops_mark (by decide) rest)
      have opened (behind : List Token) : afterRecord? (.word "Record" :: .mark '<' ::
          .word "string" :: .mark ',' :: behind) = some behind := by
        rw [afterRecord?, if_pos (by decide)]
      rw [spelled, primary, opened]
      simp only [read, Option.bind_some, afterMark?_self, Option.map_some]

/-! ## Levels -/

theorem enclosed_length (isNeeded : Bool) (spelled : List Token) :
    spelled.length ≤ (enclosed isNeeded spelled).length := by
  cases isNeeded with
  | false => exact Nat.le_refl _
  | true =>
      simp only [enclosed, if_true, List.length_cons, List.length_append]
      omega

/-- The postfixes of an array are read behind its item, and those that follow after them. -/
theorem postfixed_spelling (reads : Reads type depth) {tree : TypeTree} (isFlat : IsFlat tree)
    (noUnion : tree.isUnion = false) (noIntersection : tree.isIntersection = false)
    (short : tree.spelling.length ≤ depth) {rest : List Token} (stopped : Stops ['<'] rest) :
    postfixed type (tree.spelling ++ rest) = some (arrays tree rest) := by
  induction isFlat generalizing rest with
  | @array item inner ih =>
      have spelled : (TypeTree.array item).spelling ++ rest =
          enclosed (item.isUnion || item.isIntersection) item.spelling ++
            .mark '[' :: .mark ']' :: rest := by
        rw [TypeTree.spelling, List.append_assoc]
        rfl
      have bound := enclosed_length (item.isUnion || item.isIntersection) item.spelling
      rw [TypeTree.spelling, List.length_append] at short
      simp only [List.length_cons, List.length_nil] at short
      rw [spelled]
      cases compound : item.isUnion || item.isIntersection with
      | true =>
          rw [postfixed, primary_enclosed reads inner (by omega), Option.map_some]
          rfl
      | false =>
          obtain ⟨itemNoUnion, itemNoIntersection⟩ := Bool.or_eq_false_iff.mp compound
          exact ih itemNoUnion itemNoIntersection (by omega) (stops_mark (by decide) _)
  | union => cases noUnion
  | intersection => cases noIntersection
  | _ =>
      have read := primary_spelling reads (by constructor <;> assumption) noUnion noIntersection
        (by simp) short stopped
      rw [postfixed, read, Option.map_some]

theorem postfixed_factorSpelling (reads : Reads type depth) {tree : TypeTree}
    (isFlat : IsFlat tree) (noIntersection : tree.isIntersection = false)
    (short : (factorSpelling tree).length ≤ depth) {rest : List Token}
    (stopped : Stops ['[', '<'] rest) :
    postfixed type (factorSpelling tree ++ rest) = some (tree, rest) := by
  have last := arrays_of_stops (stopped.mono (by decide)) tree
  rw [factorSpelling] at short ⊢
  cases isUnion : tree.isUnion with
  | true =>
      rw [isUnion] at short
      simp only [enclosed, if_true, List.length_cons, List.length_append] at short
      rw [postfixed, primary_enclosed reads isFlat (by omega), Option.map_some]
      exact congrArg some last
  | false =>
      rw [isUnion] at short
      have read := postfixed_spelling reads isFlat isUnion noIntersection short
        (stopped.mono (by decide))
      rw [last] at read
      exact read

theorem intersection_spelling (reads : Reads type depth) {tree : TypeTree} (isFlat : IsFlat tree)
    (noUnion : tree.isUnion = false) (short : tree.spelling.length ≤ depth) {rest : List Token}
    (stopped : Stops ['&', '[', '<'] rest) :
    intersection type (tree.spelling ++ rest) = some (tree, rest) := by
  rw [TypeTree.spelling_eq_factors noUnion] at short ⊢
  have readEach : ∀ part ∈ tree.factors, ∀ rest, Stops ['[', '<'] rest →
      postfixed type (factorSpelling part ++ rest) = some (part, rest) := by
    intro part member rest stopped
    obtain ⟨inner, noIntersection⟩ := isFlat.factors part member
    have bound := length_le_joinTokens '&' factorSpelling member
    exact postfixed_factorSpelling reads inner noIntersection (by omega) stopped
  have read := separated_joinTokens (by decide) readEach (TypeTree.factors_ne_nil tree) stopped
  rw [intersection, read, Option.map_some]
  exact congrArg (fun whole => some (whole, rest)) (TypeTree.collapse_factors tree)

theorem union_spelling (reads : Reads type depth) {tree : TypeTree} (isFlat : IsFlat tree)
    (short : tree.spelling.length ≤ depth) {rest : List Token} (stopped : Stops typeStops rest) :
    union type (tree.spelling ++ rest) = some (tree, rest) := by
  rw [TypeTree.spelling_eq_alternatives tree] at short ⊢
  have readEach : ∀ part ∈ tree.alternatives, ∀ rest, Stops ['&', '[', '<'] rest →
      intersection type (part.spelling ++ rest) = some (part, rest) := by
    intro part member rest stopped
    obtain ⟨inner, noUnion⟩ := isFlat.alternatives part member
    have bound := length_le_joinTokens '|' TypeTree.spelling member
    exact intersection_spelling reads inner noUnion (by omega) stopped
  have read := separated_joinTokens (by decide) readEach (TypeTree.alternatives_ne_nil tree) stopped
  rw [union, read, Option.map_some]
  exact congrArg (fun whole => some (whole, rest)) (TypeTree.collapse_alternatives tree)

end Levels

/-- A flat tree is read back from its tokens at any depth that exceeds their number. -/
theorem reads_type (depth : Nat) : Reads (type depth) depth := by
  induction depth with
  | zero =>
      intro tree isFlat short
      cases short
  | succ depth ih =>
      intro tree isFlat short rest stopped
      exact union_spelling ih isFlat (Nat.le_of_lt_succ short) stopped

end Reader

/-- The text of a type is a type as a whole, and its tree is the flat form of the tree that the
text was written for. -/
theorem TypeTree.parse_text (tree : TypeTree) : parse tree.expr.text = some tree.flat := by
  have read := Reader.reads_type (tree.spelling.length + 1) tree.flat (isFlat_flat tree)
    (by rw [spelling_flat]; exact Nat.lt_succ_self _) [] (stops_nil _)
  rw [spelling_flat, List.append_nil] at read
  rw [parse, tokens_text, Option.bind_some, read]

namespace TypeTree

theorem flat_eq_of_expr_eq {tree other : TypeTree} (same : tree.expr = other.expr) :
    tree.flat = other.flat := by
  have read := tree.parse_text
  rw [same, other.parse_text] at read
  exact (Option.some.inj read).symm

mutual

/-- Trees with the same expression are the same. Literals are told apart by reading them. -/
theorem eq_of_expr_eq : ∀ {tree other : TypeTree}, tree.expr = other.expr → tree = other
  | .name word, other, same => by
      cases other with
      | name word' => exact flat_eq_of_expr_eq same
      | _ => cases same
  | .number numeral, other, same => by
      cases other with
      | number numeral' => exact flat_eq_of_expr_eq same
      | flag value' => exact flat_eq_of_expr_eq same
      | string value' => exact flat_eq_of_expr_eq same
      | _ => cases same
  | .flag value, other, same => by
      cases other with
      | number numeral' => exact flat_eq_of_expr_eq same
      | flag value' => exact flat_eq_of_expr_eq same
      | string value' => exact flat_eq_of_expr_eq same
      | _ => cases same
  | .string value, other, same => by
      cases other with
      | number numeral' => exact flat_eq_of_expr_eq same
      | flag value' => exact flat_eq_of_expr_eq same
      | string value' => exact flat_eq_of_expr_eq same
      | _ => cases same
  | .array item, other, same => by
      cases other with
      | array item' => rw [eq_of_expr_eq (TypeExpr.array.inj same)]
      | _ => cases same
  | .union first second rest, other, same => by
      cases other with
      | union first' second' rest' =>
          obtain ⟨sameFirst, behind⟩ := List.cons.inj (TypeExpr.union.inj same)
          obtain ⟨sameSecond, sameRest⟩ := List.cons.inj behind
          rw [eq_of_expr_eq sameFirst, eq_of_expr_eq sameSecond, eq_of_exprs_eq sameRest]
      | _ => cases same
  | .intersection first second rest, other, same => by
      cases other with
      | intersection first' second' rest' =>
          obtain ⟨sameFirst, behind⟩ := List.cons.inj (TypeExpr.intersection.inj same)
          obtain ⟨sameSecond, sameRest⟩ := List.cons.inj behind
          rw [eq_of_expr_eq sameFirst, eq_of_expr_eq sameSecond, eq_of_exprs_eq sameRest]
      | _ => cases same
  | .object members, other, same => by
      cases other with
      | object members' => rw [eq_of_memberExprs_eq (TypeExpr.object.inj same)]
      | _ => cases same
  | .record value, other, same => by
      cases other with
      | record value' => rw [eq_of_expr_eq (TypeExpr.record.inj same)]
      | _ => cases same

theorem eq_of_exprs_eq : ∀ {trees others : List TypeTree}, exprs trees = exprs others →
    trees = others
  | [], [], _ => rfl
  | [], _ :: _, same => by cases same
  | _ :: _, [], same => by cases same
  | tree :: rest, other :: others, same => by
      obtain ⟨first, behind⟩ := List.cons.inj same
      rw [eq_of_expr_eq first, eq_of_exprs_eq behind]

theorem eq_of_memberExprs_eq : ∀ {members others : List (Member TypeTree)},
    memberExprs members = memberExprs others → members = others
  | [], [], _ => rfl
  | [], ⟨_, _, _⟩ :: _, same => by cases same
  | ⟨_, _, _⟩ :: _, [], same => by cases same
  | ⟨_, type, _⟩ :: rest, ⟨_, other, _⟩ :: others, same => by
      obtain ⟨first, behind⟩ := List.cons.inj same
      obtain ⟨sameKey, sameType, sameOptional⟩ := Member.mk.inj first
      rw [sameKey, sameOptional, eq_of_expr_eq sameType, eq_of_memberExprs_eq behind]

end

end TypeTree

end ClientGen.TypeScript
