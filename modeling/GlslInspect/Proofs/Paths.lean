/-
The units of paths.

Cutting a path at slashes, dropping segments and joining them again makes no units but slashes and dots
(`Path.mem_directory`, `Path.mem_join`). What a path stands on is told from its first two units (`Path.anchor_shape`).
-/
import Mathlib.Tactic.SplitIfs
import GlslInspect.Path

namespace GlslInspect

/-! ## Parts -/

namespace Text

variable {α : Type} {c sep : α} {t p : List α} {ps : List (List α)}

theorem mem_consHead (h : p ∈ consHead c ps) : ∀ d ∈ p, d = c ∨ ∃ q ∈ ps, d ∈ q := by
  intro d hd
  cases ps with
  | nil =>
    rw [consHead, List.mem_singleton] at h
    subst h
    exact Or.inl (List.mem_singleton.1 hd)
  | cons q qs =>
    rw [consHead] at h
    rcases List.mem_cons.1 h with rfl | h
    · rcases List.mem_cons.1 hd with rfl | hd
      · exact Or.inl rfl
      · exact Or.inr ⟨q, List.mem_cons_self, hd⟩
    · exact Or.inr ⟨p, List.mem_cons_of_mem q h, hd⟩

theorem mem_of_mem_splitOn [DecidableEq α] (hp : p ∈ splitOn sep t) (hc : c ∈ p) : c ∈ t := by
  induction t generalizing p with
  | nil =>
    rw [splitOn, List.mem_singleton] at hp
    simp [hp] at hc
  | cons d t ih =>
    rw [splitOn] at hp
    split_ifs at hp with hd
    · rcases List.mem_cons.1 hp with rfl | hp
      · cases hc
      · exact List.mem_cons_of_mem d (ih hp hc)
    · rcases mem_consHead hp c hc with rfl | ⟨q, hq, hcq⟩
      · exact List.mem_cons_self
      · exact List.mem_cons_of_mem d (ih hq hcq)

theorem join_cons_cons (sep : α) (p q : List α) (ps : List (List α)) :
    join [sep] (p :: q :: ps) = p ++ sep :: join [sep] (q :: ps) := by
  rw [join, List.append_assoc, List.singleton_append]

theorem mem_join {seps : List α} (h : c ∈ join seps ps) : c ∈ seps ∨ ∃ p ∈ ps, c ∈ p := by
  induction ps using Text.join.induct with
  | case1 => cases h
  | case2 t => exact Or.inr ⟨t, List.mem_singleton_self t, h⟩
  | case3 t u rest ih =>
    rw [join] at h
    rcases List.mem_append.1 h with h | h
    · rcases List.mem_append.1 h with h | h
      · exact Or.inr ⟨t, List.mem_cons_self, h⟩
      · exact Or.inl h
    · rcases ih h with h | ⟨p, hp, hc⟩
      · exact Or.inl h
      · exact Or.inr ⟨p, List.mem_cons_of_mem t hp, hc⟩

end Text

/-! ## Paths -/

namespace Path

open PathUnit

variable {α : Type} [DecidableEq α] [PathUnit α] {base path : List α} {c : α}

@[simp] theorem isAbsolute_nil : isAbsolute ([] : List α) = false := by simp [isAbsolute]

theorem isAbsolute_cons (c : α) (rest : List α) : isAbsolute (c :: rest) = decide (c = slash) := by simp [isAbsolute]

theorem anchor_slash_cons (rest : List α) : anchor (slash :: rest) = ([slash], rest) := if_pos rfl

theorem anchor_dot : anchor [(dot : α)] = ([dot], []) := by
  have hslash : ¬ ([dot] : List α).head? = some slash := fun h => slash_ne_dot (Option.some.inj h).symm
  rw [anchor, if_neg hslash, if_pos (Or.inl rfl)]
  rfl

theorem anchor_dot_slash_cons (rest : List α) : anchor (dot :: slash :: rest) = ([dot], slash :: rest) := by
  have hslash : ¬ (dot :: slash :: rest).head? = some slash := fun h => slash_ne_dot (Option.some.inj h).symm
  have hdot : dot :: slash :: rest = [dot] ∨ (dot :: slash :: rest).take 2 = [dot, slash] := Or.inr rfl
  rw [anchor, if_neg hslash, if_pos hdot]
  rfl

/-- a path stands on the root, on a dot, or on nothing -/
theorem anchor_shape (path : List α) :
    (∃ rest, path = slash :: rest ∧ anchor path = ([slash], rest)) ∨ (path = [dot] ∧ anchor path = ([dot], [])) ∨
      (∃ rest, path = dot :: slash :: rest ∧ anchor path = ([dot], slash :: rest)) ∨
      (isAbsolute path = false ∧ anchor path = ([], path)) := by
  unfold anchor
  split_ifs with hroot hdot
  · obtain ⟨rest, rfl⟩ := List.head?_eq_some_iff.1 hroot
    exact Or.inl ⟨rest, rfl, rfl⟩
  · rcases hdot with rfl | hdot
    · exact Or.inr (Or.inl ⟨rfl, rfl⟩)
    · obtain ⟨rest, rfl⟩ : ∃ rest, path = dot :: slash :: rest :=
        ⟨path.drop 2, by rw [← List.take_append_drop 2 path, hdot]; simp⟩
      exact Or.inr (Or.inr (Or.inl ⟨rest, rfl, rfl⟩))
  · exact Or.inr (Or.inr (Or.inr ⟨by simpa [isAbsolute] using hroot, rfl⟩))

theorem mem_of_mem_dropIdle {segments : List (List α)} {segment : List α} (h : segment ∈ dropIdle segments) :
    segment ∈ segments := by
  unfold dropIdle at h
  rw [List.mem_reverse] at h
  exact List.mem_reverse.1 ((List.dropWhile_sublist isIdle).subset h)

theorem mem_of_mem_body {segment : List α} (h : segment ∈ body path) (hc : c ∈ segment) : c ∈ path := by
  have hrest : c ∈ (anchor path).2 := Text.mem_of_mem_splitOn (mem_of_mem_dropIdle h) hc
  rcases anchor_shape path with ⟨rest, hpath, hanchor⟩ | ⟨hpath, hanchor⟩ | ⟨rest, hpath, hanchor⟩ | ⟨-, hanchor⟩
  · rw [hanchor] at hrest
    exact hpath ▸ List.mem_cons_of_mem _ hrest
  · rw [hanchor] at hrest
    cases hrest
  · rw [hanchor] at hrest
    exact hpath ▸ List.mem_cons_of_mem _ hrest
  · rwa [hanchor] at hrest

/-- the directory of a path is spelled with the path's units, slashes and dots -/
theorem mem_directory (h : c ∈ directory path) : c ∈ path ∨ c = slash ∨ c = dot := by
  unfold directory parent? at h
  split at h
  · split_ifs at h
    · cases h
    · cases h
  · rw [Option.getD_some] at h
    rcases List.mem_append.1 h with h | h
    · rcases anchor_shape path with ⟨_, -, hanchor⟩ | ⟨-, hanchor⟩ | ⟨_, -, hanchor⟩ | ⟨-, hanchor⟩
      · rw [hanchor, List.mem_singleton] at h
        exact Or.inr (Or.inl h)
      · rw [hanchor, List.mem_singleton] at h
        exact Or.inr (Or.inr h)
      · rw [hanchor, List.mem_singleton] at h
        exact Or.inr (Or.inr h)
      · rw [hanchor] at h
        cases h
    · rcases Text.mem_join h with h | ⟨segment, hsegment, hc⟩
      · exact Or.inr (Or.inl (List.mem_singleton.1 h))
      · exact Or.inl (mem_of_mem_body (List.dropLast_subset _ (mem_of_mem_dropIdle hsegment)) hc)

theorem mem_join (h : c ∈ join base path) : c ∈ base ∨ c ∈ path ∨ c = slash := by
  unfold join at h
  split_ifs at h with hpath hbase
  · exact Or.inr (Or.inl h)
  · rcases List.mem_append.1 h with h | h
    · exact Or.inl h
    · exact Or.inr (Or.inl h)
  · rcases List.mem_append.1 h with h | h
    · exact Or.inl h
    · rcases List.mem_cons.1 h with h | h
      · exact Or.inr (Or.inr h)
      · exact Or.inr (Or.inl h)

end Path

end GlslInspect
