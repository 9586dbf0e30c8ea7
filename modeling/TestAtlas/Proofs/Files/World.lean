import TestAtlas.Files.World
import TestAtlas.Proofs.Files.Path

/-!
Where paths lead in a world. There are no links, so what a path leads to stands
where the spelling of the path says, and a path to a file ends with the name of
the file.
-/

namespace TestAtlas

namespace Tree

variable {root here tree : Tree} {above : List Tree} {before components rest : List String}
  {last : String} {bytes : Array UInt8}

/-- What stands below a tree where names lead. -/
def descend (here : Tree) : List String → Option Tree
  | [] => some here
  | name :: rest => (here.child? name).bind fun next => next.descend rest

theorem descend_append (here : Tree) (first second : List String) :
    here.descend (first ++ second) =
      (here.descend first).bind fun next => next.descend second := by
  induction first generalizing here with
  | nil => rfl
  | cons name first ih =>
      rw [List.cons_append, descend, descend, Option.bind_assoc]
      congr 1
      funext next
      exact ih next

/-- What one component does: it leads nowhere else, up, or down to an entry. There is nothing above
the root. -/
inductive Step : (above : List Tree) → (here : Tree) → (component : String) →
    (above' : List Tree) → (here' : Tree) → Prop
  | stay {above : List Tree} {here : Tree} {component : String}
      (idle : component = "" ∨ component = ".") : Step above here component above here
  | top {here : Tree} : Step [] here ".." [] here
  | up {parent here : Tree} {above : List Tree} : Step (parent :: above) here ".." above parent
  | down {above : List Tree} {here next : Tree} {component : String}
      (entry : Path.IsEntry component) (found : here.child? component = some next) :
      Step above here component (here :: above) next

theorem step_of_follow {component : String}
    (found : follow above here (component :: rest) = .ok tree) :
    here.kind = .directory ∧ ∃ above' here', Step above here component above' here' ∧
      follow above' here' rest = .ok tree := by
  cases here with
  | file bytes => cases found
  | directory entries =>
      refine ⟨rfl, ?_⟩
      unfold follow at found
      dsimp only at found
      split at found
      · rename_i idle
        exact ⟨above, directory entries, .stay (by simpa using idle), found⟩
      · rename_i busy
        split at found
        · rename_i dots
          subst dots
          cases above with
          | nil => exact ⟨[], directory entries, .top, found⟩
          | cons parent above => exact ⟨above, parent, .up, found⟩
        · rename_i single
          split at found
          · cases found
          · split at found
            · cases found
            · rename_i next child
              have entry : Path.IsEntry component := by
                simpa [Path.IsEntry, and_assoc] using And.intro busy single
              exact ⟨directory entries :: above, next, .down entry child, found⟩

/-- The ancestors on the way from the root, and the names on it in reverse. -/
inductive Chain (root : Tree) : (above : List Tree) → (here : Tree) → (before : List String) → Prop
  | root : Chain root [] root []
  | child {above : List Tree} {here next : Tree} {before : List String} {name : String}
      (chain : Chain root above here before) (entry : Path.IsEntry name)
      (found : here.child? name = some next) : Chain root (here :: above) next (name :: before)

theorem Chain.descend_eq (chain : Chain root above here before) :
    root.descend before.reverse = some here := by
  induction chain with
  | root => rfl
  | child _ _ found ih =>
      rw [List.reverse_cons, descend_append, ih, Option.bind_some, descend, found]
      rfl

/-- A step leads where its spelling says. -/
theorem Chain.step {component : String} {above' : List Tree} {here' : Tree}
    (chain : Chain root above here before) (step : Step above here component above' here') :
    Chain root above' here' (Path.pushComponent true before component) := by
  cases step with
  | stay idle =>
      obtain rfl | rfl := idle
      · exact chain
      · exact chain
  | top =>
      cases chain
      exact .root
  | up =>
      cases chain with
      | @child _ _ _ before name chain entry _ =>
          have back : Path.pushComponent true (name :: before) ".." = before :=
            if_neg entry.2.2
          rw [back]
          exact chain
  | down entry found =>
      rw [Path.pushComponent_of_isEntry entry]
      exact .child chain entry found

theorem Chain.follow (chain : Chain root above here before)
    (found : here.follow above (components ++ rest) = .ok tree) :
    ∃ above' here', Chain root above' here' (Path.pass before components) ∧
      follow above' here' rest = .ok tree := by
  induction components generalizing above here before with
  | nil => exact ⟨above, here, chain, found⟩
  | cons component others ih =>
      obtain ⟨-, above', here', step, found⟩ := step_of_follow found
      exact ih (chain.step step) found

theorem kind_of_child {name : String} {next : Tree} (found : here.child? name = some next) :
    here.kind = .directory := by
  cases here with
  | file bytes => cases found
  | directory entries => rfl

/-- Only an entry of a directory can be a file. -/
theorem Chain.isEntry (chain : Chain root above here before)
    (found : Tree.follow above here [last] = .ok (file bytes)) : Path.IsEntry last := by
  obtain ⟨inside, above', here', step, found⟩ := step_of_follow found
  cases found
  cases step with
  | stay _ | top => cases inside
  | up =>
      -- The parent has an entry, so it is no file.
      cases chain with
      | child _ _ found => cases kind_of_child found
  | down entry _ => exact entry

end Tree

namespace World

variable {world : World} {path directory : String} {tree : Tree} {bytes : Array UInt8}

/-- The path that is followed from the root. -/
def full (world : World) (path : String) : String :=
  if Path.isAbsolute path then path else Path.join world.workingDirectory path

/-- The names on the way from the root, in reverse. -/
def passed (world : World) (path : String) : List String := Path.walk [] (world.full path)

theorem components_eq (rooted : Path.isAbsolute world.workingDirectory = true) (path : String) :
    world.components path = (world.passed path).reverse := by
  refine Path.named_normalize ?_
  split
  · assumption
  · rw [Path.isAbsolute_join, rooted, Bool.true_or]

theorem follow_of_find (found : world.find path = .ok tree) :
    Tree.follow [] world.root (Text.pieces Path.separator (world.full path)) = .ok tree := by
  rw [find, Tree.find] at found
  split at found
  · cases found
  · split at found
    · cases found
    · split at found
      · cases found
      · exact found

/-- What a path leads to stands where the path says. -/
theorem descend_of_find (rooted : Path.isAbsolute world.workingDirectory = true)
    (found : world.find path = .ok tree) :
    world.root.descend (world.components path) = some tree := by
  have followed := follow_of_find found
  rw [← List.append_nil (Text.pieces _ _)] at followed
  obtain ⟨above, here, chain, ended⟩ := Tree.Chain.root.follow followed
  cases ended
  rw [components_eq rooted]
  exact chain.descend_eq

theorem name_full (world : World) (path : String) :
    Path.name (world.full path) = Path.name path := by
  rw [full]
  split
  · rfl
  · exact Path.name_join _ _

theorem isEntry_of_find (found : world.find path = .ok (.file bytes)) :
    Path.IsEntry (Path.name path) := by
  have followed := follow_of_find found
  obtain ⟨initial, split⟩ := Path.pieces_eq_append (world.full path)
  rw [split, name_full] at followed
  obtain ⟨above, here, chain, followed⟩ := Tree.Chain.root.follow followed
  exact chain.isEntry followed

theorem isFile_iff :
    world.host.isFile path = true ↔ ∃ bytes, world.find path = .ok (.file bytes) := by
  have kind : world.host.kind path = (world.find path).map Tree.kind := rfl
  rw [Host.isFile, kind]
  cases world.find path with
  | error failure =>
      refine iff_of_false Bool.false_ne_true ?_
      rintro ⟨_, found⟩
      cases found
  | ok tree =>
      cases tree with
      | file bytes => exact iff_of_true rfl ⟨bytes, rfl⟩
      | directory entries =>
          refine iff_of_false Bool.false_ne_true ?_
          rintro ⟨_, found⟩
          cases found

/-- The names on the way to a path in a directory. -/
theorem passed_join (world : World) (directory path : String) :
    world.passed (Path.join directory path) =
      if Path.isAbsolute path then world.passed path
      else Path.walk (world.passed directory) path := by
  split
  · rename_i rooted
    rw [Path.join_of_isAbsolute rooted]
  · rename_i relative
    rw [Bool.not_eq_true] at relative
    have joined : Path.isAbsolute (Path.join directory path) = Path.isAbsolute directory := by
      rw [Path.isAbsolute_join, relative, Bool.or_false]
    rw [passed, passed, full, full, joined]
    split
    · rw [Path.walk_join relative]
    · rename_i inner
      rw [Bool.not_eq_true] at inner
      rw [Path.walk_join (joined.trans inner), Path.walk_join relative, Path.walk_join inner]

/-- The way to a path in a directory ends with the last component of the path. -/
theorem passed_join_directory (world : World) (directory path : String) :
    world.passed (Path.join directory path) = Path.pushComponent true
      (world.passed (Path.join directory (Path.directory path))) (Path.name path) := by
  rw [passed_join, passed_join, Path.isAbsolute_directory]
  split
  · rename_i rooted
    have above : Path.isAbsolute (Path.directory path) = true :=
      (Path.isAbsolute_directory path).trans rooted
    rw [passed, passed, full, full, if_pos rooted, if_pos above, Path.walk_eq_pushComponent]
  · rw [Path.walk_eq_pushComponent]

theorem components_join_empty (rooted : Path.isAbsolute world.workingDirectory = true)
    (directory : String) :
    world.components (Path.join directory "") = world.components directory := by
  rw [components_eq rooted, components_eq rooted, passed_join, Path.walk_empty]
  rfl

/-- A path lies directly in a directory. -/
def LiesIn (world : World) (directory path : String) : Prop :=
  ∃ name, world.components path = world.components directory ++ [name]

/-- A file that a path leads to from a directory lies directly in it exactly if the directory of the
path leads back there. -/
theorem liesIn_join_iff (rooted : Path.isAbsolute world.workingDirectory = true)
    (present : world.host.isFile (Path.join directory path) = true) :
    world.LiesIn directory (Path.join directory path) ↔
      world.components (Path.join directory (Path.directory path)) =
        world.components directory := by
  obtain ⟨bytes, found⟩ := isFile_iff.mp present
  have entry : Path.IsEntry (Path.name path) := by
    rw [← Path.name_join directory path]
    exact isEntry_of_find found
  have reached : world.components (Path.join directory path) =
      world.components (Path.join directory (Path.directory path)) ++ [Path.name path] := by
    rw [components_eq rooted, components_eq rooted, passed_join_directory,
      Path.pushComponent_of_isEntry entry, List.reverse_cons]
  constructor
  · rintro ⟨name, beside⟩
    exact List.append_inj_left' (reached.symm.trans beside) rfl
  · intro back
    exact ⟨Path.name path, by rw [reached, back]⟩

end World
end TestAtlas
