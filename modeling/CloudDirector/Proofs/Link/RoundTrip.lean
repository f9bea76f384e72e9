import CloudDirector.Client.Response
import CloudDirector.Proofs.Link.Entries

/-!
# Links in headers and back

A link is written with its parameters in any order and with white space wherever it may stand. A
header of links that are written so is read as these links, whatever commas, equals signs and
brackets their values hold, and several headers are read as one.
-/
namespace CloudDirector.Link
open Http Text

def parameters (l : Link) : List (String × String) :=
  ("rel", l.rel) ::
    ((l.mediaType.map ("type", ·)).toList ++ (l.name.map ("title", ·)).toList)

/-- A link that can be told from the marks around it. -/
structure IsWritable (l : Link) : Prop where
  rel : l.rel ≠ ""
  href : ∀ c ∈ l.href.toList, c ≠ '<' ∧ c ≠ '>'
  trimmed : trim l.href = l.href
  values : ∀ p ∈ l.parameters, ∀ c ∈ p.2.toList, c ≠ '<' ∧ c ≠ ';' ∧ c ≠ '"'

/-- The texts of a link, with white space around it. -/
inductive Renders (l : Link) : List Char → Prop
  | mk {parameters : List (String × String)} {before text after : List Char}
    (perm : parameters.Perm l.parameters) (writes : WritesParameters parameters text)
    (hbefore : IsGap before) (hafter : IsGap after) :
    Renders l (before ++ '<' :: (l.href.toList ++ '>' :: (text ++ after)))

theorem given_of_perm {keys : List String} {ps qs : List (String × String)} (h : ps.Perm qs)
    (hfew : (qs.filter (·.1 ∈ keys)).length ≤ 1) : given keys ps = given keys qs := by
  have hperm := h.filter (·.1 ∈ keys)
  unfold given
  rcases hqs : qs.filter (·.1 ∈ keys) with _ | ⟨q, _ | ⟨q', more⟩⟩
  · rw [hqs] at hperm
    rw [hperm.eq_nil, hqs]
  · rw [hqs] at hperm
    rw [hperm.eq_singleton, hqs]
  · simp [hqs] at hfew

theorem given_parameters (l : Link) {ps : List (String × String)} (h : ps.Perm l.parameters) :
    given ["rel"] ps = some l.rel ∧ given ["type"] ps = l.mediaType ∧
      given ["title", "name"] ps = l.name := by
  obtain ⟨rel, href, mediaType, name⟩ := l
  rw [given_of_perm h, given_of_perm h, given_of_perm h]
  · cases mediaType <;> cases name <;> simp [parameters, given]
  all_goals cases mediaType <;> cases name <;> simp [parameters]

theorem IsWritable.isPlain {l : Link} (hl : l.IsWritable) {p : String × String}
    (h : p ∈ l.parameters) : IsPlain p := by
  have hkey : p.1 = "rel" ∨ p.1 = "type" ∨ p.1 = "title" := by
    simp only [parameters, List.mem_cons, List.mem_append, Option.mem_toList,
      Option.map_eq_some_iff] at h
    rcases h with rfl | ⟨_, _, rfl⟩ | ⟨_, _, rfl⟩ <;> simp
  refine ⟨?_, hl.values p h⟩
  rcases hkey with hkey | hkey | hkey <;> rw [hkey] <;> simp [isBlank]

theorem Renders.entryText {l : Link} {text : List Char} {bare : List Char → Prop}
    (h : Renders l text) (hl : l.IsWritable) : EntryText bare (some l) text := by
  obtain @⟨ps, before, text, after, perm, writes, hbefore, hafter⟩ := h
  have hdescribed : described l.href.toList ps = some l := by
    obtain ⟨hrel, htype, hname⟩ := l.given_parameters perm
    have htrim : String.ofList (trimBlank l.href.toList) = l.href := hl.trimmed
    simp [described, hrel, htype, hname, htrim, hl.rel]
  rw [← hdescribed]
  exact .entry hl.href (fun p hp => hl.isPlain (perm.mem_iff.1 hp)) writes hbefore hafter

theorem exists_writesParameters (ps : List (String × String)) :
    ∃ text, WritesParameters ps text := by
  have hgap : IsGap [] := List.forall_mem_nil _
  induction ps with
  | nil => exact ⟨[], .nil⟩
  | cons p ps ih =>
    obtain ⟨text, htext⟩ := ih
    exact ⟨_, .cons hgap hgap hgap hgap htext⟩

theorem exists_renders (l : Link) : ∃ text, Renders l text := by
  obtain ⟨text, htext⟩ := exists_writesParameters l.parameters
  exact ⟨_, .mk (.refl _) htext (List.forall_mem_nil _) (List.forall_mem_nil _)⟩

theorem forall₂_entryText {ls : List Link} {texts : List (List Char)} {bare : List Char → Prop}
    (h : List.Forall₂ Renders ls texts) (hls : ∀ l ∈ ls, l.IsWritable) :
    List.Forall₂ (EntryText bare) (ls.map some) texts := by
  induction h with
  | nil => exact .nil
  | cons hrender _ ih =>
    rw [List.forall_mem_cons] at hls
    exact .cons (hrender.entryText hls.1) (ih hls.2)

theorem links_single {α : Type} (r : Response α) (value : String) :
    ({ r with headers := ⟨[(Name.link, value)]⟩ } : Response α).links =
      if isVisible value then ofHeader value else [] := by
  cases h : isVisible value <;> simp [Response.links, Headers.getAll, visible?, h]

/-- Links that can be written are read back from every header in which they are written, and they
can all be written. Of several headers each gives its links, in order, if it is text. -/
theorem links_roundTrip :
    (∀ (ls : List Link) (texts : List (List Char)), (∀ l ∈ ls, l.IsWritable) →
      List.Forall₂ Renders ls texts → ofHeader (String.ofList (joinWith [','] texts)) = ls) ∧
    (∀ l : Link, ∃ text, Renders l text) ∧
    ∀ {α : Type} (r : Response α),
      (r.links = (r.headers.getAll Name.link).flatMap fun value =>
        ({ r with headers := ⟨[(Name.link, value)]⟩ } : Response α).links) ∧
      ∀ value, ({ r with headers := ⟨[(Name.link, value)]⟩ } : Response α).links =
        if isVisible value then ofHeader value else [] := by
  refine ⟨fun ls texts hwritable hrenders => ?_, exists_renders, fun r => ⟨?_, links_single r⟩⟩
  · have hentries : List.Forall₂ (EntryText fun _ => False) (ls.map some) texts :=
      forall₂_entryText hrenders hwritable
    rw [ofHeader_joined hentries fun _ _ => False.elim]
    simp
  · simp only [links_single]
    rw [Response.links]
    induction r.headers.getAll Name.link with
    | nil => rfl
    | cons value values ih =>
      rw [List.flatMap_cons, ← ih]
      cases h : isVisible value <;> simp [visible?, h]

/-- Parameters in any order, white space around their parts and commas in their values, and the same
links in two headers. -/
theorem links_roundTrip_of_spaced : ∃ (up next : Link) (texts : List (List Char)) (header : String)
    (r : Response Unit), up = ⟨"up", "http://vcd/a;y", none, some "A, B"⟩ ∧
      next = ⟨"next=>", "http://vcd/b", none, none⟩ ∧ (∀ l ∈ [up, next], l.IsWritable) ∧
      List.Forall₂ Renders [up, next] texts ∧
      header = "<http://vcd/a;y> ; title = \"A, B\" ;rel=\"up\" , <http://vcd/b>;rel=\"next=>\"" ∧
      String.ofList (joinWith [','] texts) = header ∧ ofHeader header = [up, next] ∧
      r.headers.getAll Name.link = [header, header] ∧ r.links = [up, next, up, next] := by
  let up : Link := ⟨"up", "http://vcd/a;y", none, some "A, B"⟩
  let next : Link := ⟨"next=>", "http://vcd/b", none, none⟩
  have hwritable : ∀ l ∈ [up, next], l.IsWritable := List.forall_mem_cons.2
    ⟨⟨by decide, by decide +kernel, by decide +kernel, by decide +kernel⟩,
      List.forall_mem_singleton.2
        ⟨by decide, by decide +kernel, by decide +kernel, by decide +kernel⟩⟩
  let header := "<http://vcd/a;y> ; title = \"A, B\" ;rel=\"up\" , <http://vcd/b>;rel=\"next=>\""
  let r : Response Unit := ⟨(), "", .ok, ⟨[(Name.link, header), (Name.link, header)]⟩, 1⟩
  obtain ⟨texts, hrenders, htext⟩ : ∃ texts, List.Forall₂ Renders [up, next] texts ∧
      String.ofList (joinWith [','] texts) = header := by
    have hnone : IsGap [] := List.forall_mem_nil _
    have hspace : IsGap [' '] := List.forall_mem_singleton.2 rfl
    have hup : WritesParameters [("title", "A, B"), ("rel", "up")] _ :=
      .cons hspace hspace hspace hspace (.cons hspace hnone hnone hnone .nil)
    have hnext : WritesParameters [("rel", "next=>")] _ := .cons hnone hnone hnone hnone .nil
    refine ⟨_, .cons (.mk (.swap _ _ _) hup hnone hspace)
      (.cons (.mk (.refl _) hnext hspace hnone) .nil), ?_⟩
    decide +kernel
  obtain ⟨hread, -, hheaders⟩ := links_roundTrip
  have hheader : ofHeader header = [up, next] := htext ▸ hread _ texts hwritable hrenders
  have hvisible : isVisible header = true := by decide +kernel
  have hboth : r.headers.getAll Name.link = [header, header] := by decide +kernel
  refine ⟨up, next, texts, header, r, rfl, rfl, hwritable, hrenders, rfl, htext, hheader, hboth, ?_⟩
  rw [(hheaders r).1, hboth, List.flatMap_cons, List.flatMap_singleton, (hheaders r).2,
    if_pos hvisible, hheader]
  rfl

end CloudDirector.Link
