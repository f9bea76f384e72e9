import CloudDirector.Proofs.Query.Streaming

/-!
# Unique records

Whether a query has one record is settled by its first page: by the records that the page holds and
by the number of all records that it states. A page that states none, or no number, is taken for
empty unless it has a successor, whatever it holds.
-/
namespace CloudDirector
open Http Json

variable {α : Type} {s : Settings} {item : Decoder α} {q : Query} {page : Page α}
  {st st' : AuthState} {history : List Exchange} {r : Result α}

/-- What a first page settles by what it holds and states. -/
inductive Query.Settles (s : Settings) (q : Query) (page : Page α) : Result α → Prop
  | multiple (many : 1 < page.total ∨ 1 < page.record.length) :
    Settles s q page (.error (.multipleRecords (q.text s.endpoint)))
  | unique {a : α} (few : page.total ≤ 1) (only : page.record = [a]) : Settles s q page (.ok a)
  | missing (few : page.total ≤ 1) (empty : page.record = []) :
    Settles s q page (.error (.missingRecord (q.text s.endpoint)))

namespace Query

theorem uniqueOf_few (few : page.total ≤ 1) (short : page.record.length ≤ 1) :
    q.uniqueOf s (some page) =
      page.record.head?.elim (.error (.missingRecord (q.text s.endpoint))) .ok := by
  have hfew : ¬ (1 < page.total ∨ 1 < page.record.length) := by omega
  refine (if_neg hfew).trans ?_
  cases page.record <;> rfl

/-- A page that is looked at settles the query. -/
theorem settles_iff : q.Settles s page r ↔ r = q.uniqueOf s (some page) := by
  constructor
  · rintro (many | ⟨few, only⟩ | ⟨few, empty⟩)
    · exact (if_pos many).symm
    · rw [uniqueOf_few few (by rw [only]; exact Nat.le_refl 1), only]
      rfl
    · rw [uniqueOf_few few (by rw [empty]; exact Nat.zero_le 1), empty]
      rfl
  · rintro rfl
    by_cases hmany : 1 < page.total ∨ 1 < page.record.length
    · have hmultiple : q.uniqueOf s (some page) = .error (.multipleRecords (q.text s.endpoint)) :=
        if_pos hmany
      rw [hmultiple]
      exact .multiple hmany
    · have hfew : page.total ≤ 1 := by omega
      have hshort : page.record.length ≤ 1 := by omega
      rw [uniqueOf_few hfew hshort]
      rcases hrecord : page.record with _ | ⟨a, _ | ⟨b, more⟩⟩
      · exact .missing hfew hrecord
      · exact .unique hfew hrecord
      · simp [hrecord] at hshort

/-- What is found on a first page, which is looked at only if it says that there are records or has
a successor. -/
def verdict (s : Settings) (q : Query) (page : Page α) : Result α := do
  let next ← page.cursor.neighbour "nextPage"
  q.uniqueOf s (if 0 < page.total ∨ next.isSome then some page else none)

end Query

/-- The first step of an iterator exchanges nothing. -/
theorem PageIterator.runs_next_unread {f : QueryFormat}
    {r : Result (Option (Page α) × PageIterator α)} :
    ((before f page).next s item).Runs st history r st' ↔
      history = [] ∧ r = (page.cursor.neighbour "nextPage").map (fun next =>
        if 0 < page.total ∨ next.isSome then (some page, on f page) else (none, before f page)) ∧
        st' = st := by
  rw [runs_next, forward_before]
  cases page.cursor.neighbour "nextPage" with
  | error e => rfl
  | ok next =>
    by_cases hread : 0 < page.total ∨ next.isSome
    · simp only [Except.map, if_pos hread]
      exact Action.runs_pure
    · simp only [Except.map, if_neg hread]
      exact Action.runs_pure

namespace Query

theorem runs_unread {f : QueryFormat} :
    Action.Runs (do
      let (first, _) ← (PageIterator.before f page).next s item
      q.uniqueOf s first) st history r st' ↔
    history = [] ∧ r = q.verdict s page ∧ st' = st := by
  rw [Action.runs_bind]
  simp only [PageIterator.runs_next_unread, Action.runs_result]
  unfold verdict
  cases page.cursor.neighbour "nextPage" with
  | error e => constructor <;> simp +contextual [Except.map]
  | ok next =>
    by_cases hread : 0 < page.total ∨ next.isSome <;>
      constructor <;> simp +contextual [Except.map, hread]

/-- The only record is asked for by the first page, on which it is found or not. -/
theorem runs_findUnique : (q.findUnique s item).Runs st history r st' ↔
    (∃ e, (q.execute s item).Runs st history (.error e) st' ∧ r = .error e) ∨
      ∃ page, (q.execute s item).Runs st history (.ok (.before q.format page)) st' ∧
        r = q.verdict s page := by
  unfold findUnique
  rw [Action.runs_bind]
  constructor
  · rintro (⟨e, hfails, rfl⟩ | ⟨before, pages, t, after, hasks, hafter, rfl⟩)
    · exact .inl ⟨e, hfails, rfl⟩
    · obtain ⟨found, -, hpages⟩ := runs_execute hasks
      obtain ⟨page, rfl, rfl⟩ := Result.map_eq_ok.1 hpages.symm
      obtain ⟨rfl, rfl, rfl⟩ := runs_unread.1 hafter
      exact .inr ⟨page, by rwa [List.append_nil], rfl⟩
  · rintro (⟨e, hfails, rfl⟩ | ⟨page, hasks, rfl⟩)
    · exact .inl ⟨e, hfails, rfl⟩
    · exact .inr ⟨history, _, st', [], hasks, runs_unread.2 ⟨rfl, rfl, rfl⟩,
        (List.append_nil _).symm⟩

/-- A page is looked at if it states records or has one successor. -/
theorem verdict_of_looked (hlinks : page.nextLinks.length ≤ 1)
    (hlooked : 0 < page.total ∨ page.nextLinks ≠ []) :
    q.verdict s page = q.uniqueOf s (some page) := by
  obtain ⟨hnone, hneighbour⟩ | ⟨l, -, hneighbour⟩ | ⟨l, l', more, hmany, -⟩ := page.neighbour_cases
  · have htotal : 0 < page.total := hlooked.resolve_right fun hne => hne hnone
    unfold verdict
    rw [hneighbour]
    exact congrArg (q.uniqueOf s) (if_pos (.inl htotal))
  · unfold verdict
    rw [hneighbour]
    exact congrArg (q.uniqueOf s) (if_pos (.inr rfl))
  · simp [hmany] at hlinks

/-- A page that states no records and has no successor is taken for empty. -/
theorem verdict_of_not_looked (htotal : ¬ 0 < page.total) (hnone : page.nextLinks = []) :
    q.verdict s page = .error (.missingRecord (q.text s.endpoint)) := by
  have hneighbour : page.cursor.neighbour "nextPage" = .ok none := by
    have hlinks : matchingLinks page "nextPage" page.mediaType = [] := hnone
    rw [Page.neighbour_eq, hlinks]
  have hunread : ¬ (0 < page.total ∨ (none : Option String).isSome) := by simpa using htotal
  unfold verdict
  rw [hneighbour]
  exact congrArg (q.uniqueOf s) (if_neg hunread)

/-- The search for the only record ends as its first page settles it just if the page states
records, holds none or has a successor; any other page is taken for empty, whatever it holds. -/
theorem findUnique_settles_iff (s : Settings) (item : Decoder α) (q : Query) :
    (∀ st history r st', (q.findUnique s item).Runs st history r st' ↔
      (∃ e, (q.execute s item).Runs st history (.error e) st' ∧ r = .error e) ∨
        ∃ page, (q.execute s item).Runs st history (.ok (.before q.format page)) st' ∧
          r = q.verdict s page) ∧
    ∀ page : Page α, page.nextLinks.length ≤ 1 →
      (q.Settles s page (q.verdict s page) ↔ page.IsCounted ∨ page.nextLinks ≠ []) ∧
      (¬ (page.IsCounted ∨ page.nextLinks ≠ []) →
        q.verdict s page = .error (.missingRecord (q.text s.endpoint))) := by
  refine ⟨fun st history r st' => runs_findUnique, fun page hlinks => ?_⟩
  by_cases hlooked : 0 < page.total ∨ page.nextLinks ≠ []
  · have hcounted : page.IsCounted ∨ page.nextLinks ≠ [] := hlooked.imp_left .inl
    rw [settles_iff, verdict_of_looked hlinks hlooked]
    exact ⟨iff_of_true rfl hcounted, fun hnot => absurd hcounted hnot⟩
  · obtain ⟨htotal, hnone⟩ := not_or.1 hlooked
    have hempty := @verdict_of_not_looked _ s q page htotal (not_not.1 hnone)
    refine ⟨?_, fun _ => hempty⟩
    rw [hempty]
    constructor
    · rintro ⟨⟩
      exact .inl (.inr ‹_›)
    · rintro ((hcounts | hholds) | hlinked)
      · exact absurd hcounts htotal
      · exact .missing (by omega) hholds
      · exact absurd hlinked hnone

/-- A server answers a query with a record and no number of records, and the record is missed. -/
theorem findUnique_not_settled_by_record : ∃ (s : Settings) (item : Decoder String) (q : Query)
    (page : Page String) (st st' : AuthState) (history : List Exchange),
      (q.execute s item).Runs st history (.ok (.before q.format page)) st' ∧
      q.Settles s page (.ok "vm") ∧
      (q.findUnique s item).Runs st history (.error (.missingRecord (q.text s.endpoint))) st' ∧
      ¬ q.Settles s page (.error (.missingRecord (q.text s.endpoint))) := by
  let endpoint : Url :=
    ⟨"https".toList, some ⟨[], none, "vcd".toList, none⟩, .segments ["api".toList, []], none, none⟩
  let s : Settings := { Settings.ofEndpoint endpoint with requestIds := .off }
  let item : Decoder String := .text
  let q : Query := .make (.packaged "vms") .records
  let page : Page String := ⟨none, none, none, 0, 0, 0, [], ["vm"]⟩
  let body : Value := .ofFields [("record", some (.array [.string "vm"]))]
  let w : World := ⟨.empty, none, fun _ => 0, 0, default,
    .scripted [.reply ⟨.ok, .empty, body.text⟩]⟩
  have hread : ((q.execute s item).runIn w).1.map PageIterator.unread = .ok (some page) := by
    decide +kernel
  have hexecute := Action.runs_exchanges (q.execute s item) w
  generalize ((q.execute s item).runIn w).1 = r at hread hexecute
  obtain ⟨found, -, rfl⟩ := runs_execute hexecute
  cases found with
  | error e => cases hread
  | ok p =>
    obtain rfl : p = page := Option.some.inj (Except.ok.inj hread)
    have huncounted : ¬ (page.IsCounted ∨ page.nextLinks ≠ []) := by
      rintro ((hcounts | hholds) | hlinked)
      · cases hcounts
      · cases hholds
      · exact hlinked rfl
    obtain ⟨hruns, hpage⟩ := findUnique_settles_iff s item q
    obtain ⟨hsettles, hmissing⟩ := hpage page (by decide)
    have hfind := (hruns _ _ _ _).2 (.inr ⟨page, hexecute, rfl⟩)
    have hnot := mt hsettles.1 huncounted
    rw [hmissing huncounted] at hfind hnot
    exact ⟨s, item, q, page, _, _, _, hexecute, .unique (by decide) rfl, hfind, hnot⟩

end Query

end CloudDirector
