/-
The summary of a report.

The domains of some parameters are counted in one pass: a domain that is new is put at the end, any other is counted up
where it stands (`tally_cases`). So what is listed is each domain that was seen, with the number of its parameters, in
the order of their first ones (`Counted`); either way of counting keeps that (`Counted.new`, `Counted.again`), and so it
holds behind the last parameter (`counted_domainCounts`).
Sorting by the numbers lists the same, and as it is stable, domains with the same number stay in their order
(`filter_domainSummary`). Of any two domains one goes first for its number or for its first parameter, so there is one
list of this kind only (`IsSummary.eq`).
Main result: `summary_determined`.
-/
import Mathlib.Algebra.BigOperators.Group.List.Basic
import Mathlib.Algebra.GroupWithZero.Nat
import Mathlib.Data.List.Nodup
import GlslInspect.Report

namespace GlslInspect.Report

/-- how many parameters are of a domain -/
def countOf (parameters : List Parameter) (domain : Domain) : ℕ := parameters.countP fun p => p.domain = domain

def firstOf (parameters : List Parameter) (domain : Domain) : ℕ := parameters.findIdx fun p => p.domain = domain

/-- a summary of parameters: each of their domains once and no other, with the number of its parameters, the largest
number first and equal ones in the order of the first parameters -/
structure IsSummary (parameters : List Parameter) (summary : List (Domain × ℕ)) : Prop where
  distinct : (summary.map Prod.fst).Nodup
  mem_iff : ∀ domain, domain ∈ summary.map Prod.fst ↔ ∃ p ∈ parameters, p.domain = domain
  count : ∀ entry ∈ summary, entry.2 = countOf parameters entry.1
  total : (summary.map Prod.snd).sum = parameters.length
  sorted : summary.Pairwise fun a b => b.2 ≤ a.2
  ties : summary.Pairwise fun a b => a.2 = b.2 → firstOf parameters a.1 < firstOf parameters b.1

/-! ## Counting -/

/-- what is listed after some parameters were counted -/
structure Counted (seen : List Parameter) (counts : List (Domain × ℕ)) : Prop where
  ordered : (counts.map Prod.fst).Pairwise fun d e => firstOf seen d < firstOf seen e
  mem_iff : ∀ domain, domain ∈ counts.map Prod.fst ↔ ∃ p ∈ seen, p.domain = domain
  count : ∀ entry ∈ counts, entry.2 = countOf seen entry.1
  total : (counts.map Prod.snd).sum = seen.length

variable {seen parameters : List Parameter} {counts : List (Domain × ℕ)} {p : Parameter} {domain : Domain}

/-- a domain that is new is put at the end, any other is counted up where it stands -/
theorem tally_cases (domain : Domain) (counts : List (Domain × ℕ)) :
    (domain ∉ counts.map Prod.fst ∧ tally domain counts = counts ++ [(domain, 1)]) ∨
      ∃ before n after, counts = before ++ (domain, n) :: after ∧
        tally domain counts = before ++ (domain, n + 1) :: after := by
  induction counts with
  | nil => exact Or.inl ⟨by simp, rfl⟩
  | cons entry rest ih =>
    obtain ⟨d, count⟩ := entry
    rw [tally]
    split_ifs with hd
    · subst hd
      exact Or.inr ⟨[], count, rest, rfl, rfl⟩
    · rcases ih with ⟨hnew, htally⟩ | ⟨before, n, after, hrest, htally⟩
      · exact Or.inl ⟨by simpa [Ne.symm hd] using hnew, by rw [htally]; rfl⟩
      · exact Or.inr ⟨(d, count) :: before, n, after, by rw [hrest]; rfl, by rw [htally]; rfl⟩

theorem countOf_concat (seen : List Parameter) (p : Parameter) (domain : Domain) :
    countOf (seen ++ [p]) domain = countOf seen domain + if p.domain = domain then 1 else 0 := by
  simp [countOf, List.countP_append, List.countP_singleton]

theorem firstOf_lt_length (h : ∃ p ∈ seen, p.domain = domain) : firstOf seen domain < seen.length :=
  List.findIdx_lt_length.2 (by simpa using h)

theorem firstOf_concat_of_seen (h : ∃ p ∈ seen, p.domain = domain) (p : Parameter) :
    firstOf (seen ++ [p]) domain = firstOf seen domain := by
  unfold firstOf
  rw [List.findIdx_append]
  exact if_pos (firstOf_lt_length h)

theorem firstOf_concat_of_new (h : ¬ ∃ q ∈ seen, q.domain = p.domain) :
    firstOf (seen ++ [p]) p.domain = seen.length := by
  have hnone : ¬ List.findIdx (fun q : Parameter => decide (q.domain = p.domain)) seen < seen.length := by
    rw [List.findIdx_lt_length]
    simpa using h
  unfold firstOf
  rw [List.findIdx_append, if_neg hnone]
  simp

/-- the domains that were seen keep their order when one parameter more is seen -/
theorem Counted.ordered_concat (h : Counted seen counts) (p : Parameter) :
    (counts.map Prod.fst).Pairwise fun d e => firstOf (seen ++ [p]) d < firstOf (seen ++ [p]) e := by
  refine h.ordered.imp_of_mem fun hd he hlt => ?_
  rwa [firstOf_concat_of_seen ((h.mem_iff _).1 hd), firstOf_concat_of_seen ((h.mem_iff _).1 he)]

theorem Counted.distinct (h : Counted seen counts) : (counts.map Prod.fst).Nodup :=
  h.ordered.imp fun hlt heq => absurd hlt (by rw [heq]; exact Nat.lt_irrefl _)

/-- the count of a domain stays when a parameter of another is seen -/
theorem Counted.count_concat (h : Counted seen counts) {entry : Domain × ℕ} (hentry : entry ∈ counts)
    (hother : p.domain ≠ entry.1) : entry.2 = countOf (seen ++ [p]) entry.1 := by
  rw [countOf_concat, if_neg hother, Nat.add_zero]
  exact h.count entry hentry

theorem Counted.new (h : Counted seen counts) (hnew : p.domain ∉ counts.map Prod.fst) :
    Counted (seen ++ [p]) (counts ++ [(p.domain, 1)]) := by
  have hunseen : ¬ ∃ q ∈ seen, q.domain = p.domain := fun hseen => hnew ((h.mem_iff p.domain).2 hseen)
  refine ⟨?_, fun domain => ?_, fun entry hentry => ?_, ?_⟩
  · rw [List.map_append, List.pairwise_append]
    refine ⟨h.ordered_concat p, List.pairwise_singleton _ _, fun d hd e he => ?_⟩
    obtain rfl : e = p.domain := by simpa using he
    have hd := (h.mem_iff d).1 hd
    rw [firstOf_concat_of_seen hd, firstOf_concat_of_new hunseen]
    exact firstOf_lt_length hd
  · rw [List.map_append, List.mem_append, h.mem_iff]
    simp [or_and_right, exists_or, eq_comm]
  · rcases List.mem_append.1 hentry with hentry | hentry
    · refine h.count_concat hentry fun heq => hnew ?_
      rw [heq]
      exact List.mem_map_of_mem hentry
    · obtain rfl := List.mem_singleton.1 hentry
      have hzero : countOf seen p.domain = 0 := List.countP_eq_zero.2 (by simpa using hunseen)
      rw [countOf_concat, hzero, if_pos rfl]
  · simp [h.total]

theorem Counted.again {before after : List (Domain × ℕ)} {n : ℕ}
    (h : Counted seen (before ++ (p.domain, n) :: after)) :
    Counted (seen ++ [p]) (before ++ (p.domain, n + 1) :: after) := by
  have hdomains : (before ++ (p.domain, n + 1) :: after).map Prod.fst =
      (before ++ (p.domain, n) :: after).map Prod.fst := by simp
  have hseen : ∃ q ∈ seen, q.domain = p.domain := (h.mem_iff p.domain).1 (by simp)
  refine ⟨hdomains ▸ h.ordered_concat p, fun domain => ?_, fun entry hentry => ?_, ?_⟩
  · rw [hdomains, h.mem_iff]
    constructor
    · rintro ⟨q, hq, hdomain⟩
      exact ⟨q, List.mem_append_left _ hq, hdomain⟩
    · rintro ⟨q, hq, rfl⟩
      rcases List.mem_append.1 hq with hq | hq
      · exact ⟨q, hq, rfl⟩
      · rwa [List.mem_singleton.1 hq]
  · -- no other entry is of this domain
    have hdistinct := h.distinct
    rw [List.map_append, List.map_cons, List.nodup_middle, List.nodup_cons, ← List.map_append] at hdistinct
    rw [List.mem_append, List.mem_cons, or_left_comm, ← List.mem_append] at hentry
    rcases hentry with rfl | hentry
    · have hcount : n = countOf seen p.domain := h.count (p.domain, n) (by simp)
      rw [countOf_concat, if_pos rfl, hcount]
    · have hmem : entry.1 ∈ (before ++ after).map Prod.fst := List.mem_map_of_mem hentry
      refine h.count_concat ?_ fun heq => hdistinct.1 (heq ▸ hmem)
      rw [List.mem_append, List.mem_cons, or_left_comm, ← List.mem_append]
      exact Or.inr hentry
  · have htotal := h.total
    simp only [List.map_append, List.map_cons, List.sum_append, List.sum_cons, List.length_append,
      List.length_singleton] at htotal ⊢
    omega

theorem Counted.tally (h : Counted seen counts) (p : Parameter) :
    Counted (seen ++ [p]) (tally p.domain counts) := by
  rcases tally_cases p.domain counts with ⟨hnew, htally⟩ | ⟨before, n, after, rfl, htally⟩
  · rw [htally]
    exact h.new hnew
  · rw [htally]
    exact h.again

theorem Counted.foldl_tally (h : Counted seen counts) (parameters : List Parameter) :
    Counted (seen ++ parameters) (parameters.foldl (fun counts p => Report.tally p.domain counts) counts) := by
  induction parameters generalizing seen counts with
  | nil => rwa [List.append_nil]
  | cons p rest ih =>
    have hrest := ih (h.tally p)
    rwa [List.append_assoc] at hrest

theorem counted_domainCounts (parameters : List Parameter) : Counted parameters (domainCounts parameters) := by
  have hstart : Counted [] [] := ⟨.nil, by simp, by simp, rfl⟩
  exact hstart.foldl_tally parameters

/-! ## Sorting -/

theorem byCount_trans (a b c : Domain × ℕ) (hab : decide (b.2 ≤ a.2) = true) (hbc : decide (c.2 ≤ b.2) = true) :
    decide (c.2 ≤ a.2) = true :=
  decide_eq_true (Nat.le_trans (of_decide_eq_true hbc) (of_decide_eq_true hab))

theorem byCount_total (a b : Domain × ℕ) : (decide (b.2 ≤ a.2) || decide (a.2 ≤ b.2)) = true := by
  rw [Bool.or_eq_true, decide_eq_true_iff, decide_eq_true_iff]
  exact Nat.le_total b.2 a.2

theorem domainSummary_perm (parameters : List Parameter) : (domainSummary parameters).Perm (domainCounts parameters) :=
  List.mergeSort_perm _ _

theorem sorted_domainSummary (parameters : List Parameter) :
    (domainSummary parameters).Pairwise fun a b => b.2 ≤ a.2 := by
  have hsorted := List.pairwise_mergeSort byCount_trans byCount_total (domainCounts parameters)
  exact hsorted.imp of_decide_eq_true

/-- sorting keeps the order of the domains with a given number -/
theorem filter_domainSummary (parameters : List Parameter) (n : ℕ) :
    (domainSummary parameters).filter (fun entry => entry.2 = n) =
      (domainCounts parameters).filter fun entry => entry.2 = n := by
  have hequal : ((domainCounts parameters).filter fun entry => entry.2 = n).Pairwise fun a b =>
      decide (b.2 ≤ a.2) = true := by
    refine List.pairwise_of_forall_mem_list fun a ha b hb => decide_eq_true ?_
    have ha : a.2 = n := of_decide_eq_true (List.mem_filter.1 ha).2
    have hb : b.2 = n := of_decide_eq_true (List.mem_filter.1 hb).2
    exact Nat.le_of_eq (hb.trans ha.symm)
  -- they are in order already, so they are kept as they are, and there are no more of them
  have hkept := (List.sublist_mergeSort byCount_trans byCount_total hequal List.filter_sublist).filter
    fun entry => entry.2 = n
  simp only [List.filter_filter, Bool.and_self] at hkept
  exact (hkept.eq_of_length ((domainSummary_perm parameters).filter _).length_eq.symm).symm

theorem isSummary_domainSummary (parameters : List Parameter) : IsSummary parameters (domainSummary parameters) := by
  have hperm := domainSummary_perm parameters
  have hcounted := counted_domainCounts parameters
  refine ⟨(hperm.map Prod.fst).nodup_iff.2 hcounted.distinct, fun domain => ?_, fun entry hentry => ?_, ?_,
    sorted_domainSummary parameters, ?_⟩
  · rw [(hperm.map Prod.fst).mem_iff, hcounted.mem_iff]
  · exact hcounted.count entry (hperm.mem_iff.1 hentry)
  · rw [(hperm.map Prod.snd).sum_eq, hcounted.total]
  · refine List.pairwise_iff_forall_sublist.2 fun {a b} hpair heq => ?_
    have hboth := hpair.filter fun entry => entry.2 = b.2
    rw [filter_domainSummary] at hboth
    have hcounts : [a, b].Sublist (domainCounts parameters) := by
      simpa [heq] using hboth.trans List.filter_sublist
    exact List.pairwise_iff_forall_sublist.1 (List.pairwise_map.1 hcounted.ordered) hcounts

/-! ## Uniqueness -/

variable {summary other : List (Domain × ℕ)}

theorem IsSummary.mem_summary_iff (h : IsSummary parameters summary) (entry : Domain × ℕ) :
    entry ∈ summary ↔ (∃ p ∈ parameters, p.domain = entry.1) ∧ entry.2 = countOf parameters entry.1 := by
  constructor
  · exact fun hentry => ⟨(h.mem_iff entry.1).1 (List.mem_map_of_mem hentry), h.count entry hentry⟩
  · rintro ⟨hseen, hcount⟩
    obtain ⟨found, hfound, hdomain⟩ := List.mem_map.1 ((h.mem_iff entry.1).2 hseen)
    have hsame : found = entry := Prod.ext hdomain (by rw [h.count found hfound, hcount, hdomain])
    exact hsame ▸ hfound

theorem IsSummary.eq (h : IsSummary parameters summary) (h' : IsSummary parameters other) : summary = other := by
  have hperm : summary.Perm other := by
    refine (List.perm_ext_iff_of_nodup h.distinct.of_map h'.distinct.of_map).2 fun entry => ?_
    rw [h.mem_summary_iff, h'.mem_summary_iff]
  refine List.Perm.eq_of_pairwise (fun a b _ _ hab hba => ?_) (h.sorted.and h.ties) (h'.sorted.and h'.ties) hperm
  have hcount : a.2 = b.2 := Nat.le_antisymm hba.1 hab.1
  exact absurd (hab.2 hcount) (Nat.lt_asymm (hba.2 hcount.symm))

/-- **The summary is determined.** The summary of a report lists each domain that is guessed for a parameter once and no
other, with the number of parameters of that domain. The numbers add up to that of all parameters. Domains of more
parameters come first, and domains of the same number in the order of their first parameters. No other list does all
this. -/
theorem summary_determined (parameters : List Parameter) :
    IsSummary parameters (domainSummary parameters) ∧
      ∀ other, IsSummary parameters other → other = domainSummary parameters :=
  ⟨isSummary_domainSummary parameters, fun _ h => h.eq (isSummary_domainSummary parameters)⟩

/-- a domain that comes second and has most parameters goes first; the others keep their order -/
theorem summary_determined_ties :
    let parameters : List Parameter := [⟨0, "Gain", .float, "Unknown", []⟩, ⟨0, "CameraX", .float, "Unknown", []⟩,
      ⟨1, "Time", .float, "Unknown", []⟩, ⟨1, "CameraY", .float, "Unknown", []⟩]
    IsSummary parameters [(.camera, 2), (.effectConfig, 1), (.frame, 1)] ∧
      domainSummary parameters = [(.camera, 2), (.effectConfig, 1), (.frame, 1)] := by
  intro parameters
  have hsummary : IsSummary parameters [(.camera, 2), (.effectConfig, 1), (.frame, 1)] := by
    refine ⟨by decide, fun domain => ?_, by decide, by decide, by decide, by decide⟩
    cases domain <;> decide
  exact ⟨hsummary, ((summary_determined parameters).2 _ hsummary).symm⟩

end GlslInspect.Report
