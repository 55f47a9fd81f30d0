/-
Where paths lead through a tree with links.

Following a path takes one step after the other, and goes aside at each link, with one link fewer left to follow.
`FileTree.Leads` has one rule for each of these, and says the same as the function that counts the links down
(`FileTree.follow?_eq_ok_iff`). So facts about ways are proved by induction on the way:
- `Leads.unique`: where a way leads does not hang on how many links may be followed, nor on what stands at places that
  are no links;
- `SameBut.leads`: a way that ends in a directory does not pass a place from which no way goes on (`DeadEnd`), so what
  becomes of that place does not matter.
-/
import Mathlib.Tactic.SplitIfs
import GlslInspect.FileTree

namespace GlslInspect

/-- a computation of two parts succeeds when both do -/
theorem bind_eq_ok {ε α β : Type} {x : Except ε α} {f : α → Except ε β} {b : β} :
    x >>= f = .ok b ↔ ∃ a, x = .ok a ∧ f a = .ok b := by
  cases x with
  | error e => simp [bind, Except.bind]
  | ok a => simp [bind, Except.bind]

namespace FileTree

variable {tree next : FileTree} {cwd start place spot : Location} {segments : List Text} {links : Nat} {stand : Stand}

/-! ## Steps -/

theorem linkAt?_eq_some_iff {target : Text} :
    tree.linkAt? place = some target ↔ tree.node? place = some (.link target) := by
  unfold linkAt?
  split
  · rename_i other hnode
    simp [hnode]
  · rename_i hnode
    simp only [reduceCtorEq, false_iff]
    exact hnode target

theorem linkAt?_of_node? (h : tree.node? place = next.node? place) : tree.linkAt? place = next.linkAt? place := by
  unfold linkAt?
  rw [h]

theorem linkAt?_of_directory (h : tree.node? place = some .directory) : tree.linkAt? place = none := by
  unfold linkAt?
  rw [h]

theorem linkAt?_of_empty (h : tree.node? place = none) : tree.linkAt? place = none := by
  unfold linkAt?
  rw [h]

theorem node?_of_step? {target : Location} {segment : Text} (h : tree.step? start segment = .ok target) :
    tree.node? start = some .directory := by
  unfold step? at h
  split at h
  · cases h
  · assumption
  · cases h

/-- where a step leads is a matter of spelling, if it leads anywhere -/
theorem step?_unique {first second : Location} {segment : Text} (h : tree.step? start segment = .ok first)
    (h' : next.step? start segment = .ok second) : first = second := by
  have hdirectory := node?_of_step? h
  have hdirectory' := node?_of_step? h'
  unfold step? at h h'
  rw [hdirectory] at h
  rw [hdirectory'] at h'
  dsimp only at h h'
  split_ifs at h h' <;> exact Except.ok.inj (h.symm.trans h')

theorem step?_of_name {name : Text} (hstart : tree.node? start = some .directory) (hdot : name ≠ ".")
    (hdots : name ≠ "..") (hshort : Text.byteLength name ≤ nameLimit)
    (hthere : (tree.node? (start ++ [name])).isSome = true) : tree.step? start name = .ok (start ++ [name]) := by
  unfold step?
  rw [hstart]
  simp only [hdot, hdots, Nat.not_lt.2 hshort, if_false]
  exact if_pos hthere

theorem step?_dot (hstart : tree.node? start = some .directory) : tree.step? start "." = .ok start := by
  unfold step?
  rw [hstart]
  rfl

/-! ## Ways -/

/-- segments lead from a place to another, while so many links may be followed -/
inductive Leads (tree : FileTree) : Location → List Text → Nat → Stand → Prop
  | here (place : Location) (links : Nat) : Leads tree place [] links ⟨place, links⟩
  | step {place next : Location} {segment : Text} {rest : List Text} {links : Nat} {stand : Stand}
    (goes : tree.step? place segment = .ok next) (plain : tree.linkAt? next = none)
    (later : Leads tree next rest links stand) : Leads tree place (segment :: rest) links stand
  | link {place next : Location} {segment target : Text} {rest : List Text} {links : Nat} {stand : Stand}
    (goes : tree.step? place segment = .ok next) (aside : tree.linkAt? next = some target)
    (checked : checkPath target = .ok ())
    (later : Leads tree (origin next.dropLast target) (way target ++ rest) links stand) :
    Leads tree place (segment :: rest) (links + 1) stand

theorem follow?_nil : tree.follow? start [] links = .ok ⟨start, links⟩ := by
  cases links <;> rfl

theorem follow?_of_step {mid : Location} {segment : Text} {rest : List Text}
    (goes : tree.step? start segment = .ok mid) (plain : tree.linkAt? mid = none) :
    tree.follow? start (segment :: rest) links = tree.follow? mid rest links := by
  have hleg : tree.leg? start (segment :: rest) = tree.leg? mid rest := by
    rw [leg?, goes]
    dsimp only
    rw [plain]
  unfold follow?
  rw [hleg]

theorem leg?_of_link {mid : Location} {segment target : Text} {rest : List Text}
    (goes : tree.step? start segment = .ok mid) (aside : tree.linkAt? mid = some target) :
    tree.leg? start (segment :: rest) = .ok (.stopped mid target rest) := by
  rw [leg?, goes]
  dsimp only
  rw [aside]

theorem follow?_of_link {mid : Location} {segment target : Text} {rest : List Text}
    (goes : tree.step? start segment = .ok mid) (aside : tree.linkAt? mid = some target) :
    tree.follow? start (segment :: rest) (links + 1) =
      checkPath target >>= fun _ => tree.follow? (origin mid.dropLast target) (way target ++ rest) links := by
  conv =>
    lhs
    unfold follow?
    rw [leg?_of_link goes aside]

theorem follow?_of_link_zero {mid : Location} {segment target : Text} {rest : List Text}
    (goes : tree.step? start segment = .ok mid) (aside : tree.linkAt? mid = some target) :
    tree.follow? start (segment :: rest) 0 = .error .tooManyLinks := by
  unfold follow?
  rw [leg?_of_link goes aside]

theorem follow?_of_refused {error : FileError} {segment : Text} {rest : List Text}
    (refused : tree.step? start segment = .error error) :
    tree.follow? start (segment :: rest) links = .error error := by
  have hleg : tree.leg? start (segment :: rest) = .error error := by rw [leg?, refused]
  unfold follow?
  rw [hleg]

theorem Leads.follow?_eq (h : tree.Leads start segments links stand) :
    tree.follow? start segments links = .ok stand := by
  induction h with
  | here => exact follow?_nil
  | step goes plain _ ih => rw [follow?_of_step goes plain, ih]
  | link goes aside checked _ ih =>
    rw [follow?_of_link goes aside, checked, ← ih]
    rfl

theorem leads_of_follow? (h : tree.follow? start segments links = .ok stand) :
    tree.Leads start segments links stand := by
  induction links using Nat.strongRecOn generalizing start segments with
  | ind links ih =>
    induction segments generalizing start with
    | nil =>
      rw [follow?_nil] at h
      cases h
      exact .here start links
    | cons segment rest ihrest =>
      cases hstep : tree.step? start segment with
      | error error =>
        rw [follow?_of_refused hstep] at h
        cases h
      | ok mid =>
        cases hlink : tree.linkAt? mid with
        | none =>
          rw [follow?_of_step hstep hlink] at h
          exact .step hstep hlink (ihrest h)
        | some target =>
          cases links with
          | zero =>
            rw [follow?_of_link_zero hstep hlink] at h
            cases h
          | succ links =>
            rw [follow?_of_link hstep hlink] at h
            obtain ⟨_, hchecked, hlater⟩ := bind_eq_ok.1 h
            exact .link hstep hlink hchecked (ih links (Nat.lt_succ_self links) hlater)

theorem follow?_eq_ok_iff : tree.follow? start segments links = .ok stand ↔ tree.Leads start segments links stand :=
  ⟨leads_of_follow?, Leads.follow?_eq⟩

namespace Leads

/-- a way goes on where another ends -/
theorem append {rest : List Text} {last : Stand} (h : tree.Leads start segments links stand)
    (h' : tree.Leads stand.place rest stand.links last) : tree.Leads start (segments ++ rest) links last := by
  induction h with
  | here => exact h'
  | step goes plain _ ih => exact .step goes plain (ih h')
  | link goes aside checked _ ih =>
    have hlater := ih h'
    rw [List.append_assoc] at hlater
    exact .link goes aside checked hlater

/-- a way over two parts stands somewhere between them -/
theorem exists_mid {first rest : List Text} (h : tree.Leads start (first ++ rest) links stand) :
    ∃ mid, tree.Leads start first links mid ∧ tree.Leads mid.place rest mid.links stand := by
  generalize hall : first ++ rest = all at h
  induction h generalizing first with
  | here place links =>
    obtain ⟨rfl, rfl⟩ := List.append_eq_nil_iff.1 hall
    exact ⟨_, .here place links, .here place links⟩
  | @step place next segment more links stand goes plain later ih =>
    cases first with
    | nil =>
      subst hall
      exact ⟨_, .here place links, .step goes plain later⟩
    | cons head first =>
      obtain ⟨rfl, hmore⟩ := List.cons.inj hall
      obtain ⟨mid, hfirst, hrest⟩ := ih hmore
      exact ⟨mid, .step goes plain hfirst, hrest⟩
  | @link place next segment target more links stand goes aside checked later ih =>
    cases first with
    | nil =>
      subst hall
      exact ⟨_, .here place (links + 1), .link goes aside checked later⟩
    | cons head first =>
      obtain ⟨rfl, hmore⟩ := List.cons.inj hall
      have hbehind : way target ++ first ++ rest = way target ++ more := by
        rw [List.append_assoc, ← hmore]
        rfl
      obtain ⟨mid, hfirst, hrest⟩ := ih hbehind
      exact ⟨mid, .link goes aside checked hfirst, hrest⟩

theorem start_of_cons {segment : Text} {rest : List Text} (h : tree.Leads start (segment :: rest) links stand) :
    tree.node? start = some .directory := by
  cases h with
  | step goes _ _ => exact node?_of_step? goes
  | link goes _ _ _ => exact node?_of_step? goes

theorem directory (h : tree.Leads start segments links stand) (hend : tree.node? stand.place = some .directory) :
    tree.node? start = some .directory := by
  cases segments with
  | nil =>
    cases h
    exact hend
  | cons segment rest => exact h.start_of_cons

end Leads

def SameLinks (tree next : FileTree) : Prop := ∀ place, tree.linkAt? place = next.linkAt? place

theorem SameLinks.refl (tree : FileTree) : tree.SameLinks tree := fun _ => rfl

/-- where a way leads is settled by the links, however many of them may be followed -/
theorem Leads.unique (same : tree.SameLinks next) {links' : Nat} {stand' : Stand}
    (h : tree.Leads start segments links stand) (h' : next.Leads start segments links' stand') :
    stand.place = stand'.place := by
  induction h generalizing links' with
  | here =>
    cases h'
    rfl
  | step goes plain _ ih =>
    cases h' with
    | step goes' _ later' =>
      obtain rfl := step?_unique goes goes'
      exact ih later'
    | link goes' aside' _ _ =>
      obtain rfl := step?_unique goes goes'
      rw [same, aside'] at plain
      cases plain
  | link goes aside _ _ ih =>
    cases h' with
    | step goes' plain' _ =>
      obtain rfl := step?_unique goes goes'
      rw [same, plain'] at aside
      cases aside
    | link goes' aside' _ later' =>
      obtain rfl := step?_unique goes goes'
      rw [same, aside'] at aside
      cases aside
      exact ih later'

/-! ## Trees that differ at one place -/

theorem place_ne_nil (h : tree.node? place ≠ some .directory) : place ≠ [] := by
  rintro rfl
  exact h rfl

/-- no way goes on from a place: it is no directory, and no link to one -/
structure DeadEnd (tree : FileTree) (spot : Location) : Prop where
  directory : tree.node? spot ≠ some .directory
  link : ∀ target, tree.linkAt? spot = some target → ∀ links stand,
    tree.Leads (origin spot.dropLast target) (way target) links stand → tree.node? stand.place ≠ some .directory

theorem deadEnd_of_linkAt? (h : tree.node? spot ≠ some .directory) (h' : tree.linkAt? spot = none) :
    tree.DeadEnd spot :=
  ⟨h, fun target htarget => by rw [h'] at htarget; cases htarget⟩

/-- two trees hold the same at all places but one -/
def SameBut (place : Location) (tree next : FileTree) : Prop :=
  ∀ other, other ≠ place → next.node? other = tree.node? other

namespace SameBut

theorem refl (place : Location) (tree : FileTree) : SameBut place tree tree := fun _ _ => rfl

theorem put (tree : FileTree) (place : Location) (node : Node) : SameBut place tree (tree.put place node) :=
  fun _ h => node?_put_of_ne h

theorem erase (tree : FileTree) (place : Location) : SameBut place tree (tree.erase place) :=
  fun _ h => node?_erase_of_ne h

theorem trans {last : FileTree} (h : SameBut place tree next) (h' : SameBut place next last) :
    SameBut place tree last :=
  fun other hother => (h' other hother).trans (h other hother)

theorem step? {target : Location} {segment : Text} (h : SameBut spot tree next) (hstart : start ≠ spot)
    (htarget : target ≠ spot) (hstep : tree.step? start segment = .ok target) :
    next.step? start segment = .ok target := by
  have hdirectory := node?_of_step? hstep
  unfold FileTree.step? at hstep ⊢
  rw [h start hstart, hdirectory]
  rw [hdirectory] at hstep
  dsimp only at hstep ⊢
  split_ifs at hstep with hdot hdots hlong hin
  · rwa [if_pos hdot]
  · rwa [if_neg hdot, if_pos hdots]
  · cases hstep
    rw [if_neg hdot, if_neg hdots, if_neg hlong, h _ htarget, if_pos hin]

/-- a way that ends in a directory passes no dead end, so what becomes of one does not matter -/
theorem leads (same : SameBut spot tree next) (dead : tree.DeadEnd spot) (h : tree.Leads start segments links stand)
    (hend : tree.node? stand.place = some .directory) : next.Leads start segments links stand := by
  induction h with
  | here place links => exact .here place links
  | @step place mid segment rest links stand goes plain later ih =>
    have hplace : place ≠ spot := fun heq => dead.directory (heq ▸ node?_of_step? goes)
    have hmid : mid ≠ spot := fun heq => dead.directory (heq ▸ later.directory hend)
    refine .step (same.step? hplace hmid goes) ?_ (ih hend)
    rw [linkAt?_of_node? (same mid hmid), plain]
  | @link place mid segment target rest links stand goes aside checked later ih =>
    have hplace : place ≠ spot := fun heq => dead.directory (heq ▸ node?_of_step? goes)
    have hmid : mid ≠ spot := by
      rintro rfl
      obtain ⟨end_, hled, hrest⟩ := later.exists_mid
      exact dead.link target aside _ _ hled (hrest.directory hend)
    refine .link (same.step? hplace hmid goes) ?_ checked (ih hend)
    rw [linkAt?_of_node? (same mid hmid), aside]

end SameBut

end FileTree

end GlslInspect
