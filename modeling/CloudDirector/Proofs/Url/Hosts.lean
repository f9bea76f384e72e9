import CloudDirector.Proofs.Text.Cutting
import CloudDirector.Proofs.Url.Escaped
import CloudDirector.Url.Parser
import Mathlib.Data.Nat.Digits.Defs

/-!
# Characters of hosts

Whatever a host is read from, be it a name in any script or a number, it is shown without the
characters by which a URL is cut into its parts.
-/
namespace CloudDirector.Url
open Text Encoding

variable {c : Char} {cs host : List Char}

/-- Characters of an authority before its host ends: no sign that ends the user's name either. -/
def isHostChar (c : Char) : Bool := isMainChar c && c != '@'

def IsHostText (cs : List Char) : Prop := ∀ c ∈ cs, isHostChar c = true

instance (cs : List Char) : Decidable (IsHostText cs) :=
  inferInstanceAs (Decidable (∀ c ∈ cs, isHostChar c = true))

theorem isHostChar_of_isAlphanum (h : c.isAlphanum = true) : isHostChar c = true := by
  simp [isHostChar, isMainChar_of_isAlphanum h, ne_of_isAlphanum h (d := '@') (by decide)]

theorem IsHostText.append {cs' : List Char} (h : IsHostText cs) (h' : IsHostText cs') :
    IsHostText (cs ++ cs') := List.forall_mem_append.2 ⟨h, h'⟩

theorem IsHostText.joinWith {sep : List Char} {parts : List (List Char)} (hsep : IsHostText sep)
    (h : ∀ part ∈ parts, IsHostText part) : IsHostText (joinWith sep parts) := by
  induction parts with
  | nil => exact List.forall_mem_nil _
  | cons part parts ih =>
    rw [List.forall_mem_cons] at h
    cases parts with
    | nil => exact h.1
    | cons next parts => exact (h.1.append hsep).append (ih h.2)

theorem isHostText_percentEncode
    (h : ∀ c ∈ cs, escapedAlways c = false → isHostChar c = true) :
    IsHostText (percentEncode escapedAlways cs) := by
  intro c hc
  rcases mem_percentEncode hc with ⟨hmem, hkept⟩ | hcode
  · exact h c hmem hkept
  · exact hcode.of_alphanum isHostChar_of_isAlphanum (by decide)

theorem isHostChar_digitChar : ∀ d < 16, isHostChar d.digitChar = true := by decide

theorem isHostText_toDigits {base : Nat} (hbase : 1 < base) (hle : base ≤ 16) (n : Nat) :
    IsHostText (Nat.toDigits base n) := by
  induction n using Nat.strongRecOn with
  | ind n ih =>
    rw [Nat.toDigits_eq_if hbase]
    split
    · intro c hc
      rw [List.mem_singleton.1 hc]
      exact isHostChar_digitChar _ (by omega)
    · next hlarge =>
      refine (ih _ (Nat.div_lt_self (by omega) hbase)).append ?_
      intro c hc
      rw [List.mem_singleton.1 hc]
      exact isHostChar_digitChar _ (by have := Nat.mod_lt n (by omega : 0 < base); omega)

theorem isHostText_joinDigits {base : Nat} {sep : List Char} (hsep : IsHostText sep)
    (hbase : 1 < base) (hle : base ≤ 16) (ns : List Nat) :
    IsHostText (joinWith sep (ns.map (Nat.toDigits base))) := by
  refine IsHostText.joinWith hsep fun part hpart => ?_
  obtain ⟨n, -, rfl⟩ := List.mem_map.1 hpart
  exact isHostText_toDigits hbase hle n

theorem isHostText_ipv4Text (n : Nat) : IsHostText (ipv4Text n) :=
  isHostText_joinDigits (by decide) (by decide) (by decide) _

theorem isHostText_ipv6Text (ws : List Nat) : IsHostText (ipv6Text ws) := by
  have hhex (ns : List Nat) : IsHostText (joinWith [':'] (ns.map (Nat.toDigits 16))) :=
    isHostText_joinDigits (by decide) (by decide) (by decide) ns
  have hopen : IsHostText ['['] := by decide
  have hclose : IsHostText [']'] := by decide
  have hgap : IsHostText [':', ':'] := by decide
  unfold ipv6Text
  dsimp only
  refine hopen.append (IsHostText.append ?_ hclose)
  split
  · exact hhex ws
  · exact ((hhex _).append hgap).append (hhex _)

theorem isHostChar_of_not_forbidden (h : isForbiddenInDomain c = false) : isHostChar c = true := by
  simp only [isForbiddenInDomain, Bool.or_eq_false_iff, decide_eq_false_iff_not] at h
  obtain ⟨⟨hgreater, -⟩, hmarks⟩ := h
  have hends : c ≠ '#' ∧ c ≠ '?' ∧ c ≠ '@' := by
    refine ⟨?_, ?_, ?_⟩ <;> rintro rfl <;> revert hmarks <;> decide
  simp [isHostChar, isMainChar, hends, Nat.lt_of_not_le hgreater]

namespace Punycode

theorem isHostChar_digitChar : ∀ d < 36, isHostChar (digitChar d) = true := by decide

theorem isHostText_writeDelta (bias k q : Nat) : IsHostText (writeDelta bias k q) := by
  induction k, q using writeDelta.induct bias with
  | case1 k q t hlast =>
    have hbounds := threshold_bounds k bias
    rw [writeDelta, if_pos hlast]
    intro c hc
    rw [List.mem_singleton.1 hc]
    exact isHostChar_digitChar q (by omega)
  | case2 k q t hmore ih =>
    have hbounds := threshold_bounds k bias
    have hdigit : t + (q - t) % (36 - t) < 36 := by
      have hmod := Nat.mod_lt (q - t) (by omega : 0 < 36 - t)
      omega
    rw [writeDelta, if_neg hmore]
    exact List.forall_mem_cons.2 ⟨isHostChar_digitChar _ hdigit, ih⟩

theorem isHostText_pass {basic n : Nat} {p : Progress} (h : IsHostText p.output) :
    IsHostText (pass basic n p c).output := by
  unfold pass
  split
  · exact h
  · split
    · exact h.append (isHostText_writeDelta _ _ _)
    · exact h

theorem isHostText_insertAll {label : List Char} {basic : Nat} {numbers : List Nat} {last : Nat}
    {p : Progress} (h : IsHostText p.output) :
    IsHostText (insertAll label basic numbers last p).output := by
  induction numbers generalizing last p with
  | nil => exact h
  | cons n more ih =>
    have hpasses (label : List Char) {p : Progress} (h : IsHostText p.output) :
        IsHostText (label.foldl (pass basic n) p).output := by
      induction label generalizing p with
      | nil => exact h
      | cons c label ih => exact ih (isHostText_pass h)
    exact ih (hpasses label h)

theorem isHostText_encode (h : IsHostText cs) : IsHostText (encode cs) := by
  have hbasic : IsHostText (cs.filter (·.toNat < 0x80)) := fun c hc => h c (List.mem_of_mem_filter hc)
  refine isHostText_insertAll (hbasic.append ?_)
  split <;> decide

end Punycode

theorem Label.isHostText_shown {l : Label} (h : IsHostText cs) (hl : Label.ofChars? cs = some l) :
    IsHostText l.shown := by
  unfold Label.ofChars? at hl
  split at hl
  · obtain ⟨_, -, hl⟩ := Option.bind_eq_some_iff.1 hl
    obtain ⟨written, -, hl⟩ := Option.bind_eq_some_iff.1 hl
    obtain ⟨_, -, hl⟩ := Option.bind_eq_some_iff.1 hl
    cases hl
    exact h
  · obtain ⟨_, -, hl⟩ := Option.bind_eq_some_iff.1 hl
    cases hl
    dsimp only
    split
    · exact h
    · exact IsHostText.append (by decide) (Punycode.isHostText_encode h)

theorem exists_of_mapM_eq_some {α β : Type} {f : α → Option β} {xs : List α} {ys : List β}
    (h : xs.mapM f = some ys) : ∀ y ∈ ys, ∃ x ∈ xs, f x = some y := by
  induction xs generalizing ys with
  | nil =>
    cases h
    exact List.forall_mem_nil _
  | cons x xs ih =>
    rw [List.mapM_cons] at h
    obtain ⟨y, hy, h⟩ := Option.bind_eq_some_iff.1 h
    obtain ⟨rest, hrest, h⟩ := Option.bind_eq_some_iff.1 h
    cases h
    refine List.forall_mem_cons.2 ⟨⟨x, List.mem_cons_self, hy⟩, fun z hz => ?_⟩
    obtain ⟨x', hx', hz⟩ := ih hrest z hz
    exact ⟨x', List.mem_cons_of_mem x hx', hz⟩

theorem isHostText_domain (h : domain? cs = some host) : IsHostText host := by
  unfold domain? at h
  obtain ⟨plain, hplain, h⟩ := Option.bind_eq_some_iff.1 h
  obtain ⟨labels, hlabels, h⟩ := Option.bind_eq_some_iff.1 h
  obtain ⟨_, -, h⟩ := Option.bind_eq_some_iff.1 h
  cases h
  have hread : IsHostText plain := by
    unfold readDomain? at hplain
    obtain ⟨read, -, hplain⟩ := Option.bind_eq_some_iff.1 hplain
    obtain ⟨_, hguard, hplain⟩ := Option.bind_eq_some_iff.1 hplain
    cases hplain
    have hnone := (Option.guard_eq_some' _).1 hguard
    rw [Bool.not_eq_true', List.any_eq_false] at hnone
    exact fun c hc => isHostChar_of_not_forbidden (by simpa using hnone c hc)
  refine IsHostText.joinWith (by decide) fun part hpart => ?_
  obtain ⟨label, hlabel, rfl⟩ := List.mem_map.1 hpart
  obtain ⟨piece, hpiece, hshown⟩ := exists_of_mapM_eq_some hlabels label hlabel
  exact Label.isHostText_shown (fun c hc => hread c (mem_of_mem_pieces hpiece hc)) hshown

theorem isHostText_webHost (h : webHost? cs = .ok host) : IsHostText host := by
  unfold webHost? at h
  split at h
  · split at h
    · split at h
      · cases h
        exact isHostText_ipv6Text _
      · cases h
    · cases h
  · split at h
    · cases h
    · cases h
    · next hdomain =>
      split at h
      · split at h
        · cases h
          exact isHostText_ipv4Text _
        · cases h
      · cases h
        exact isHostText_domain hdomain

theorem isHostText_otherHost (h : otherHost? cs = .ok host) : IsHostText host := by
  unfold otherHost? at h
  split at h
  · split at h
    · split at h
      · cases h
        exact isHostText_ipv6Text _
      · cases h
    · cases h
  · split at h
    · cases h
    · next hnone =>
      cases h
      refine isHostText_percentEncode fun c hc hkept => ?_
      have hnot : isForbiddenInHost c = false := by
        simp only [List.any_eq_true, not_exists, not_and] at hnone
        simpa using hnone c hc
      have hends : c ≠ ' ' ∧ c ≠ '#' ∧ c ≠ '?' ∧ c ≠ '@' := by
        refine ⟨?_, ?_, ?_, ?_⟩ <;> rintro rfl <;> revert hnot <;> decide
      have hge := toNat_of_escapedAlways hkept
      have hne := ne_space_iff.2 hends.1
      have hgreater : 0x20 < c.toNat := by omega
      simp [isHostChar, isMainChar, hends, hgreater]

end CloudDirector.Url
