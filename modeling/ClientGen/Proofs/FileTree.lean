import ClientGen.Files.Tree

/-!
# What writing does to a file tree

The location that a path leads to is read off the path and the working directory: there are no
links. A file that was written is read back from every path with its location, until another text
is written there; making directories changes no file, and removing takes away what stands at a
location and below it, nothing else.
-/

namespace ClientGen

theorem Text.fromUTF8?_toUTF8 (text : String) : String.fromUTF8? text.toUTF8 = some text := by
  rw [String.toUTF8_eq_toByteArray, String.fromUTF8?, dif_pos text.isValidUTF8]
  rfl

namespace FileTree

def step (location : Location) (piece : List Char) : Location :=
  match Path.component? piece with
  | some (.name name) => location ++ [name]
  | some .parent => location.dropLast
  | _ => location

/-- The location of a path that starts from a working directory. -/
def locationFrom (directory : Location) (path : Path) : Location :=
  (Text.split '/' path.chars).foldl step (if path.isAbsolute then [] else directory)

/-! ## Entries -/

theorem entry_put (tree : FileTree) (location other : Location) (entry : Entry)
    (nonempty : location ≠ []) :
    FileTree.entry? (tree.put location entry) other =
      if other = location then some entry else tree.entry? other := by
  cases other with
  | nil => simp [nonempty.symm, entry?]
  | cons name rest =>
      simp only [put, entry?, List.find?_append, List.find?_filter]
      split
      · rename_i same
        have gone : tree.entries.find? (fun given =>
            decide ((given.1 != location) = true ∧ (given.1 == name :: rest) = true)) = none := by
          apply List.find?_eq_none.mpr
          intro given _
          simp [same]
        rw [gone, same]
        simp
      · rename_i different
        have kept : (fun given : Location × Entry =>
            decide ((given.1 != location) = true ∧ (given.1 == name :: rest) = true)) =
            fun given => given.1 == name :: rest := by
          funext given
          by_cases same : given.1 = name :: rest <;> simp [same, different]
        rw [kept]
        simp [Ne.symm different]

theorem entry_foldl_put_directory (tree : FileTree) (directories : List Location)
    (location : Location) :
    FileTree.entry? (directories.foldl (fun tree directory =>
        if (tree.entry? directory).isSome then tree else tree.put directory .directory)
      tree) location =
      if location ∈ directories ∧ tree.entry? location = none then some .directory
      else tree.entry? location := by
  induction directories generalizing tree with
  | nil => simp
  | cons directory rest ih =>
      rw [List.foldl_cons, ih]
      cases found : tree.entry? directory with
      | some entry =>
          by_cases here : location = directory
          · simp [here, found]
          · simp [here]
      | none =>
          have nonempty : directory ≠ [] := by
            rintro rfl
            cases found
          by_cases here : location = directory
          · simp [here, found, entry_put, nonempty]
          · simp [here, entry_put, nonempty]

/-- An entry is put at its location, directories are made above it where nothing stands, and the
rest stays as it is. -/
theorem entry_place (tree : FileTree) (location other : Location) (entry : Entry)
    (nonempty : location ≠ []) :
    FileTree.entry? (tree.place location entry) other =
      if other = location then some entry
      else if other ∈ above location ∧ tree.entry? other = none then some .directory
      else tree.entry? other := by
  rw [place, entry_put _ _ _ _ nonempty, entry_foldl_put_directory]

/-- A tree keeps the working directory and every directory of another one. -/
structure Grows (before after : FileTree) : Prop where
  workingDirectory : after.workingDirectory = before.workingDirectory
  directory : ∀ location, before.entry? location = some .directory →
    after.entry? location = some .directory

/-! ## Where paths lead -/

theorem foldl_step_of_all_isEmpty (location : Location) {pieces : List (List Char)}
    (empty : pieces.all List.isEmpty = true) : pieces.foldl step location = location := by
  induction pieces with
  | nil => rfl
  | cons piece rest ih =>
      rw [List.all_cons, Bool.and_eq_true] at empty
      obtain rfl := List.isEmpty_iff.mp empty.1
      exact ih empty.2

theorem step_of_name {location : Location} {piece : List Char} {name : String}
    (component : Path.component? piece = some (.name name)) :
    step location piece = location ++ [name] := by
  simp only [step, component]

theorem step_of_parent {location : Location} {piece : List Char}
    (component : Path.component? piece = some .parent) :
    step location piece = location.dropLast := by
  simp only [step, component]

theorem step_of_other {location : Location} {piece : List Char}
    (noName : ∀ name, Path.component? piece ≠ some (.name name))
    (noParent : Path.component? piece ≠ some .parent) : step location piece = location := by
  unfold step
  split
  · rename_i name component
    exact absurd component (noName name)
  · rename_i component
    exact absurd component noParent
  · rfl

theorem location_of_walk {tree : FileTree} {directory : Location} {pieces : List (List Char)}
    {target : Target} (walked : tree.walk directory pieces = .ok target) :
    target.location = pieces.foldl step directory := by
  induction pieces generalizing directory with
  | nil =>
      cases walked
      rfl
  | cons piece rest ih =>
      rw [walk] at walked
      rw [List.foldl_cons]
      split at walked
      · rename_i name component
        rw [step_of_name component]
        dsimp only at walked
        split at walked
        · cases walked
        · split at walked
          · rename_i last
            obtain rfl := List.isEmpty_iff.mp last
            cases walked
            rfl
          · split at walked
            · exact ih walked
            · cases walked
            · split at walked
              · rename_i slashes
                cases walked
                exact (foldl_step_of_all_isEmpty _ slashes).symm
              · cases walked
      · rename_i component
        rw [step_of_parent component]
        exact ih walked
      · rename_i noName noParent
        rw [step_of_other noName noParent]
        exact ih walked

theorem location_of_resolve {tree : FileTree} {path : Path} {target : Target}
    (resolved : tree.resolve path = .ok target) :
    target.location = locationFrom tree.workingDirectory path := by
  unfold resolve at resolved
  split at resolved
  · cases resolved
  · split at resolved
    · cases resolved
    · split at resolved
      · cases resolved
      · exact location_of_walk resolved

/-- What stood at a location and below is gone once it is removed, and everything else stays. -/
theorem entry_of_remove {before after : FileTree} {path : Path}
    (removed : before.remove path = .ok after) {location : Location} (nonempty : location ≠ []) :
    after.entry? location =
      if locationFrom before.workingDirectory path <+: location then none
      else before.entry? location := by
  unfold remove at removed
  split at removed
  · cases removed
  · rename_i target resolved
    split at removed
    · cases removed
    · cases removed
      rw [← location_of_resolve resolved]
      obtain ⟨name, rest, rfl⟩ := List.exists_cons_of_ne_nil nonempty
      simp only [List.prefix_iff_eq_take, entry?, List.find?_filter]
      split
      · rename_i below
        rw [Option.map_eq_none_iff, List.find?_eq_none]
        intro given _
        by_cases same : given.1 = name :: rest
        · simp [same, ← below]
        · simp [same]
      · rename_i elsewhere
        congr 2
        funext given
        by_cases same : given.1 = name :: rest
        · simp [same, Ne.symm elsewhere]
        · simp [same]

/-- A path that leads to an entry, or to the name of a new file, leads there in a tree that has
grown. -/
theorem walk_of_grows {before after : FileTree} (grows : Grows before after)
    {directory : Location} {pieces : List (List Char)} {target : Target}
    (walked : before.walk directory pieces = .ok target)
    (useful : before.entry? target.location ≠ none ∨ target.wantsDirectory = false) :
    after.walk directory pieces = .ok target := by
  induction pieces generalizing directory with
  | nil =>
      cases walked
      rfl
  | cons piece rest ih =>
      rw [walk] at walked ⊢
      split at walked
      · rename_i name component
        dsimp only at walked ⊢
        split at walked
        · cases walked
        · rename_i short
          rw [if_neg short]
          split at walked
          · rename_i last
            rw [if_pos last]
            exact walked
          · rename_i more
            rw [if_neg more]
            split at walked
            · rename_i inside
              rw [grows.directory _ inside]
              exact ih walked
            · cases walked
            · rename_i missing
              split at walked
              · cases walked
                -- Nothing stands here, and a slash asks for a directory: no file is meant.
                rcases useful with present | wanted
                · exact absurd missing present
                · cases wanted
              · cases walked
      · exact ih walked
      · exact ih walked

theorem resolve_of_grows {before after : FileTree} (grows : Grows before after) {path : Path}
    {target : Target} (resolved : before.resolve path = .ok target)
    (useful : before.entry? target.location ≠ none ∨ target.wantsDirectory = false) :
    after.resolve path = .ok target := by
  unfold resolve at resolved ⊢
  split at resolved
  · cases resolved
  · split at resolved
    · cases resolved
    · split at resolved
      · cases resolved
      · rename_i noNul nonempty short
        rw [if_neg noNul, if_neg nonempty, if_neg short, grows.workingDirectory]
        exact walk_of_grows grows resolved useful

/-! ## Reading what was written -/

theorem readText_eq_ok_iff (tree : FileTree) (path : Path) (text : String) :
    tree.readText path = .ok text ↔ ∃ target content, tree.resolve path = .ok target ∧
      tree.entry? target.location = some (.file content) ∧
      String.fromUTF8? content = some text := by
  unfold readText
  cases tree.resolve path with
  | error fault => simp
  | ok target =>
      cases found : tree.entry? target.location with
      | none => simp [found]
      | some entry =>
          cases entry with
          | directory => simp [found]
          | file content => cases decoded : String.fromUTF8? content <;> simp [found, decoded]

/-- Two paths with the same location lead to the same text. -/
theorem eq_of_readText {tree : FileTree} {path other : Path} {text otherText : String}
    (read : tree.readText path = .ok text) (otherRead : tree.readText other = .ok otherText)
    (same : locationFrom tree.workingDirectory path = locationFrom tree.workingDirectory other) :
    text = otherText := by
  obtain ⟨target, content, resolved, found, decoded⟩ := (readText_eq_ok_iff _ _ _).mp read
  obtain ⟨_, _, again, foundAgain, decodedAgain⟩ := (readText_eq_ok_iff _ _ _).mp otherRead
  rw [location_of_resolve resolved, same, ← location_of_resolve again, foundAgain] at found
  cases found
  exact Option.some.inj (decoded.symm.trans decodedAgain)

theorem readText_of_grows {before after : FileTree} (grows : Grows before after) {path : Path}
    {text : String} (read : before.readText path = .ok text)
    (same : after.entry? (locationFrom before.workingDirectory path) =
      before.entry? (locationFrom before.workingDirectory path)) :
    after.readText path = .ok text := by
  obtain ⟨target, content, resolved, found, decoded⟩ := (readText_eq_ok_iff _ _ _).mp read
  have present : before.entry? target.location ≠ none := by
    rw [found]
    exact Option.some_ne_none _
  rw [← location_of_resolve resolved] at same
  exact (readText_eq_ok_iff _ _ _).mpr
    ⟨target, content, resolve_of_grows grows resolved (.inl present), same.trans found, decoded⟩

/-- A tree after a file was written: it has the file at its location, nothing else has changed. -/
structure Wrote (before : FileTree) (path : Path) (text : String) (after : FileTree) : Prop where
  grows : Grows before after
  resolved : ∃ target, after.resolve path = .ok target
  written : after.entry? (locationFrom before.workingDirectory path) = some (.file text.toUTF8)
  other : ∀ location, location ≠ locationFrom before.workingDirectory path →
    after.entry? location = before.entry? location

theorem grows_put_file {tree : FileTree} {location : Location} (content : ByteArray)
    (nonempty : location ≠ []) (notDirectory : tree.entry? location ≠ some .directory) :
    Grows tree (tree.put location (.file content)) := by
  refine ⟨rfl, fun other given => ?_⟩
  rw [entry_put tree location other _ nonempty, if_neg]
  · exact given
  · rintro rfl
    exact notDirectory given

theorem wrote_of_writeText {before after : FileTree} {path : Path} {text : String}
    (succeeded : before.writeText path text = .ok after) : Wrote before path text after := by
  unfold writeText at succeeded
  cases resolved : before.resolve path with
  | error fault =>
      rw [resolved] at succeeded
      cases succeeded
  | ok target =>
      rw [resolved] at succeeded
      dsimp only at succeeded
      have free : before.entry? target.location ≠ some .directory ∧
          (before.entry? target.location ≠ none ∨ target.wantsDirectory = false) ∧
          after = before.put target.location (.file text.toUTF8) := by
        split at succeeded
        · cases succeeded
        · rename_i content found
          cases succeeded
          exact ⟨by simp [found], .inl (by simp [found]), rfl⟩
        · rename_i found
          split at succeeded
          · cases succeeded
          · rename_i file
            cases succeeded
            exact ⟨by simp [found], .inr (Bool.eq_false_iff.mpr file), rfl⟩
      obtain ⟨notDirectory, useful, rfl⟩ := free
      have nonempty : target.location ≠ [] := by
        intro root
        apply notDirectory
        rw [root]
        rfl
      have grows := grows_put_file text.toUTF8 nonempty notDirectory
      refine ⟨grows, ⟨target, resolve_of_grows grows resolved useful⟩, ?_, fun location apart => ?_⟩
      · rw [← location_of_resolve resolved, entry_put _ _ _ _ nonempty, if_pos rfl]
      · rw [← location_of_resolve resolved] at apart
        rw [entry_put _ _ _ _ nonempty, if_neg apart]

namespace Wrote

variable {before after : FileTree} {path : Path} {text : String}

theorem readText (wrote : Wrote before path text after) : after.readText path = .ok text := by
  obtain ⟨target, resolved⟩ := wrote.resolved
  refine (readText_eq_ok_iff _ _ _).mpr ⟨target, text.toUTF8, resolved, ?_, ?_⟩
  · rw [location_of_resolve resolved, wrote.grows.workingDirectory]
    exact wrote.written
  · exact Text.fromUTF8?_toUTF8 text

/-- Every path of a file with the same location now leads to the text. -/
theorem readText_of_eq (wrote : Wrote before path text after) {other : Path} {old : String}
    (read : before.readText other = .ok old)
    (same : locationFrom before.workingDirectory other =
      locationFrom before.workingDirectory path) : after.readText other = .ok text := by
  obtain ⟨target, content, resolved, found, -⟩ := (readText_eq_ok_iff _ _ _).mp read
  have present : before.entry? target.location ≠ none := by
    rw [found]
    exact Option.some_ne_none _
  refine (readText_eq_ok_iff _ _ _).mpr ⟨target, text.toUTF8,
    resolve_of_grows wrote.grows resolved (.inl present), ?_, Text.fromUTF8?_toUTF8 text⟩
  rw [location_of_resolve resolved, same]
  exact wrote.written

/-- Every other file keeps its text. -/
theorem readText_of_ne (wrote : Wrote before path text after) {other : Path} {old : String}
    (read : before.readText other = .ok old)
    (apart : locationFrom before.workingDirectory other ≠
      locationFrom before.workingDirectory path) : after.readText other = .ok old :=
  readText_of_grows wrote.grows read (wrote.other _ apart)

end Wrote

/-! ## Making directories -/

/-- A tree that has every entry of another one. -/
structure Extends (before after : FileTree) : Prop where
  workingDirectory : after.workingDirectory = before.workingDirectory
  entry : ∀ location entry, before.entry? location = some entry →
    after.entry? location = some entry

namespace Extends

variable {before between after : FileTree}

theorem refl (tree : FileTree) : Extends tree tree :=
  ⟨rfl, fun _ _ same => same⟩

theorem trans (first : Extends before between) (second : Extends between after) :
    Extends before after := by
  refine ⟨second.workingDirectory.trans first.workingDirectory, ?_⟩
  exact fun location entry given => second.entry location entry (first.entry location entry given)

theorem grows (larger : Extends before after) : Grows before after :=
  ⟨larger.workingDirectory, fun location => larger.entry location .directory⟩

theorem readText (larger : Extends before after) {path : Path} {text : String}
    (read : before.readText path = .ok text) : after.readText path = .ok text := by
  apply readText_of_grows larger.grows read
  obtain ⟨target, content, resolved, found, -⟩ := (readText_eq_ok_iff _ _ _).mp read
  rw [← location_of_resolve resolved, found]
  exact larger.entry _ _ found

end Extends

/-- A tree that has more directories than another one, and nothing else. -/
structure Directed (before after : FileTree) : Prop extends Extends before after where
  file : ∀ location content, after.entry? location = some (.file content) →
    before.entry? location = some (.file content)

namespace Directed

variable {before between after : FileTree}

theorem refl (tree : FileTree) : Directed tree tree :=
  ⟨.refl tree, fun _ _ same => same⟩

theorem trans (first : Directed before between) (second : Directed between after) :
    Directed before after :=
  ⟨first.toExtends.trans second.toExtends,
    fun location content given => first.file location content (second.file location content given)⟩

end Directed

theorem directed_of_makeDirectory {before after : FileTree} {path : Path}
    (made : before.makeDirectory path = .ok after) : Directed before after := by
  unfold makeDirectory at made
  split at made
  · cases made
  · rename_i target resolved
    split at made
    · cases made
    · rename_i free
      cases made
      have nonempty : target.location ≠ [] := by
        intro root
        rw [root] at free
        cases free
      constructor
      · refine ⟨rfl, fun location entry given => ?_⟩
        rw [entry_put _ _ _ _ nonempty, if_neg]
        · exact given
        · rintro rfl
          rw [free] at given
          cases given
      · intro location content given
        rw [entry_put _ _ _ _ nonempty] at given
        split at given
        · cases given
        · exact given

theorem directed_of_makeDirectoriesFrom (path : Path) (fuel : Nat) (tree : FileTree) :
    Directed tree (makeDirectoriesFrom path fuel tree).2 := by
  induction fuel generalizing path tree with
  | zero => exact .refl tree
  | succ fuel ih =>
      rw [makeDirectoriesFrom]
      split
      · exact .refl tree
      · split
        · rename_i made
          exact directed_of_makeDirectory made
        · split
          · exact .refl tree
          · rename_i parent _
            have above := ih parent tree
            split
            · rename_i between failed
              rw [failed] at above
              exact above
            · rename_i between done
              rw [done] at above
              split
              · rename_i made
                exact above.trans (directed_of_makeDirectory made)
              · exact above
        · exact .refl tree

/-- Making directories changes nothing else. -/
theorem directed_of_makeDirectories (tree : FileTree) (path : Path) :
    Directed tree (tree.makeDirectories path).2 :=
  directed_of_makeDirectoriesFrom path _ tree

end FileTree

end ClientGen
