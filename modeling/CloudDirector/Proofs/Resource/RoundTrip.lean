import CloudDirector.Proofs.Json.ReadingBack
import CloudDirector.Resource.Entity
import CloudDirector.Resource.Page
import CloudDirector.Resource.Record
import CloudDirector.Resource.Session
import CloudDirector.Resource.User
import CloudDirector.Resource.Versions

/-!
# Resources and their JSON

Every resource is read back from the JSON that it is written as, whatever of it is absent, empty or
unknown. Resources that keep what is not declared give it back as it came; of what is declared they
drop what is null.
-/
namespace CloudDirector
open Json Time

theorem Link.readsBack (l : Link) : ReadsBack Link.ofDocument Link.toJson l := by
  have hnodup : members.Nodup := by decide
  have hrecord : l.toJson.toDocument.record? members = some l.toJson.record := record_ofFields _ _
  have hrel : l.toJson.record.required "rel" .text = some l.rel :=
    Record.required_ofFields hnodup rfl (.text _)
  have hhref : l.toJson.record.required "href" .text = some l.href :=
    Record.required_ofFields hnodup rfl (.text _)
  have htype : l.toJson.record.optional "type" .text = some l.mediaType :=
    Record.optional_ofFields hnodup rfl fun _ _ => .text _
  have hname : l.toJson.record.optional "name" .text = some l.name :=
    Record.optional_ofFields hnodup rfl fun _ _ => .text _
  refine ⟨nofun, ?_⟩
  simp only [ofDocument, hrecord, hrel, hhref, htype, hname, Option.bind_eq_bind, Option.bind_some]

theorem Link.readsBack_list (ls : List Link) :
    ReadsBack (.list Link.ofDocument) Link.listJson ls :=
  .list fun l _ => l.readsBack

theorem Reference.readsBack (x : Reference) :
    ReadsBack Reference.ofDocument Reference.toJson x := by
  have hnodup : members.Nodup := by decide
  have hrecord : x.toJson.toDocument.record? members = some x.toJson.record := record_ofFields _ _
  have hhref : x.toJson.record.orElse "href" "" .text = some x.href :=
    Record.orElse_ofFields hnodup rfl (.text _)
  have hid : x.toJson.record.optional "id" .text = some x.id :=
    Record.optional_ofFields hnodup rfl fun _ _ => .text _
  have hname : x.toJson.record.optional "name" .text = some x.name :=
    Record.optional_ofFields hnodup rfl fun _ _ => .text _
  have htype : x.toJson.record.optional "type" .text = some x.mediaType :=
    Record.optional_ofFields hnodup rfl fun _ _ => .text _
  refine ⟨nofun, ?_⟩
  simp only [ofDocument, hrecord, hhref, hid, hname, htype, Option.bind_eq_bind, Option.bind_some]

/-- A number of 32 bits with a sign. -/
def IsInt32 (n : Int) : Prop := -2147483648 ≤ n ∧ n ≤ 2147483647

theorem IsInt32.readsBack {n : Int} (h : IsInt32 n) : ReadsBack .int32 .ofInt n :=
  .whole h.1 h.2

theorem ErrorDetail.readsBack {e : ErrorDetail} (h : IsInt32 e.majorCode) :
    ReadsBack ErrorDetail.ofDocument ErrorDetail.toJson e := by
  have hnodup : members.Nodup := by decide
  have hrecord : e.toJson.toDocument.record? members = some e.toJson.record := record_ofFields _ _
  have hmessage : e.toJson.record.optional "message" .text = some e.message :=
    Record.optional_ofFields hnodup rfl fun _ _ => .text _
  have hmajor : e.toJson.record.orElse "majorErrorCode" 0 .int32 = some e.majorCode :=
    Record.orElse_ofFields hnodup rfl h.readsBack
  have hminor : e.toJson.record.optional "minorErrorCode" .text = some e.minorCode :=
    Record.optional_ofFields hnodup rfl fun _ _ => .text _
  have hvendor : e.toJson.record.optional "vendorSpecificErrorCode" .text = some e.vendorCode :=
    Record.optional_ofFields hnodup rfl fun _ _ => .text _
  have htrace : e.toJson.record.optional "stackTrace" .text = some e.stackTrace :=
    Record.optional_ofFields hnodup rfl fun _ _ => .text _
  refine ⟨nofun, ?_⟩
  simp only [ofDocument, hrecord, hmessage, hmajor, hminor, hvendor, htrace, Option.bind_eq_bind,
    Option.bind_some]

theorem TaskStatus.readsBack (s : TaskStatus) :
    ReadsBack (.label ofLabel) (fun s => .string (label s)) s :=
  .label (ofLabel_label s)

/-- The times of a task and the code of its error are in range. -/
structure Task.InRange (t : Task) : Prop where
  startTime : ∀ i, t.startTime = some i → i.IsValid
  endTime : ∀ i, t.endTime = some i → i.IsValid
  error : ∀ e, t.error = some e → IsInt32 e.majorCode

theorem Task.readsBack {t : Task} (h : t.InRange) : ReadsBack Task.ofDocument Task.toJson t := by
  have hnodup : members.Nodup := by decide
  have hrecord : t.toJson.toDocument.record? members = some t.toJson.record := record_ofFields _ _
  have hhref : t.toJson.record.required "href" .text = some t.href :=
    Record.required_ofFields hnodup rfl (.text _)
  have hid : t.toJson.record.optional "id" .text = some t.id :=
    Record.optional_ofFields hnodup rfl fun _ _ => .text _
  have hname : t.toJson.record.optional "name" .text = some t.name :=
    Record.optional_ofFields hnodup rfl fun _ _ => .text _
  have hoperation : t.toJson.record.optional "operationName" .text = some t.operationName :=
    Record.optional_ofFields hnodup rfl fun _ _ => .text _
  have hstatus : t.toJson.record.required "status" (.label TaskStatus.ofLabel) = some t.status :=
    Record.required_ofFields hnodup rfl t.status.readsBack
  have hstart : t.toJson.record.optional "startTime" .instant = some t.startTime :=
    Record.optional_ofFields hnodup rfl fun i hi => .instant (h.startTime i hi)
  have hend : t.toJson.record.optional "endTime" .instant = some t.endTime :=
    Record.optional_ofFields hnodup rfl fun i hi => .instant (h.endTime i hi)
  have howner : t.toJson.record.optional "owner" Reference.ofDocument = some t.owner :=
    Record.optional_ofFields hnodup rfl fun x _ => x.readsBack
  have herror : t.toJson.record.optional "error" ErrorDetail.ofDocument = some t.error :=
    Record.optional_ofFields hnodup rfl fun e he =>
      ErrorDetail.readsBack (h.error e he)
  have hlink : t.toJson.record.orElse "link" [] (.list Link.ofDocument) = some t.link :=
    Record.orElse_ofFields hnodup rfl (Link.readsBack_list _)
  refine ⟨nofun, ?_⟩
  simp only [ofDocument, hrecord, hhref, hid, hname, hoperation, hstatus, hstart, hend, howner,
    herror, hlink, Option.bind_eq_bind, Option.bind_some]

/-- The dates of a task record are in range. -/
structure TaskRecord.InRange (t : TaskRecord) : Prop where
  startDate : ∀ i, t.startDate = some i → i.IsValid
  endDate : ∀ i, t.endDate = some i → i.IsValid

theorem TaskRecord.readsBack {t : TaskRecord} (h : t.InRange) :
    ReadsBack TaskRecord.ofDocument TaskRecord.toJson t := by
  have hnodup : members.Nodup := by decide
  have hrecord : t.toJson.toDocument.record? members = some t.toJson.record := record_ofFields _ _
  have hhref : t.toJson.record.orElse "href" "" .text = some t.href :=
    Record.orElse_ofFields hnodup rfl (.text _)
  have hid : t.toJson.record.optional "id" .text = some t.id :=
    Record.optional_ofFields hnodup rfl fun _ _ => .text _
  have hname : t.toJson.record.optional "name" .text = some t.name :=
    Record.optional_ofFields hnodup rfl fun _ _ => .text _
  have hstatus : t.toJson.record.required "status" (.label TaskStatus.ofLabel) = some t.status :=
    Record.required_ofFields hnodup rfl t.status.readsBack
  have hstart : t.toJson.record.optional "startDate" .instant = some t.startDate :=
    Record.optional_ofFields hnodup rfl fun i hi => .instant (h.startDate i hi)
  have hend : t.toJson.record.optional "endDate" .instant = some t.endDate :=
    Record.optional_ofFields hnodup rfl fun i hi => .instant (h.endDate i hi)
  refine ⟨nofun, ?_⟩
  simp only [ofDocument, hrecord, hhref, hid, hname, hstatus, hstart, hend, Option.bind_eq_bind,
    Option.bind_some]

/-- The time and the status of an event record are in range. -/
structure EventRecord.InRange (e : EventRecord) : Prop where
  timeStamp : ∀ i, e.timeStamp = some i → i.IsValid
  eventStatus : ∀ n, e.eventStatus = some n → IsInt32 n

theorem EventRecord.readsBack {e : EventRecord} (h : e.InRange) :
    ReadsBack EventRecord.ofDocument EventRecord.toJson e := by
  have hnodup : members.Nodup := by decide
  have hrecord : e.toJson.toDocument.record? members = some e.toJson.record := record_ofFields _ _
  have hhref : e.toJson.record.optional "href" .text = some e.href :=
    Record.optional_ofFields hnodup rfl fun _ _ => .text _
  have htype : e.toJson.record.required "eventType" .text = some e.eventType :=
    Record.required_ofFields hnodup rfl (.text _)
  have hentity : e.toJson.record.optional "entity" .text = some e.entity :=
    Record.optional_ofFields hnodup rfl fun _ _ => .text _
  have hname : e.toJson.record.optional "entityName" .text = some e.entityName :=
    Record.optional_ofFields hnodup rfl fun _ _ => .text _
  have htime : e.toJson.record.optional "timeStamp" .instant = some e.timeStamp :=
    Record.optional_ofFields hnodup rfl fun i hi => .instant (h.timeStamp i hi)
  have hstatus : e.toJson.record.optional "eventStatus" .int32 = some e.eventStatus :=
    Record.optional_ofFields hnodup rfl fun n hn => (h.eventStatus n hn).readsBack
  have hnamespace : e.toJson.record.optional "serviceNamespace" .text = some e.serviceNamespace :=
    Record.optional_ofFields hnodup rfl fun _ _ => .text _
  refine ⟨nofun, ?_⟩
  simp only [ofDocument, hrecord, hhref, htype, hentity, hname, htime, hstatus, hnamespace,
    Option.bind_eq_bind, Option.bind_some]

theorem SessionResource.readsBack (s : SessionResource) :
    ReadsBack SessionResource.ofDocument SessionResource.toJson s := by
  have hnodup : members.Nodup := by decide
  have hrecord : s.toJson.toDocument.record? members = some s.toJson.record := record_ofFields _ _
  have hhref : s.toJson.record.optional "href" .text = some s.href :=
    Record.optional_ofFields hnodup rfl fun _ _ => .text _
  have horg : s.toJson.record.optional "org" .text = some s.org :=
    Record.optional_ofFields hnodup rfl fun _ _ => .text _
  have huser : s.toJson.record.optional "user" .text = some s.user :=
    Record.optional_ofFields hnodup rfl fun _ _ => .text _
  have huserId : s.toJson.record.optional "userId" .text = some s.userId :=
    Record.optional_ofFields hnodup rfl fun _ _ => .text _
  have hlink : s.toJson.record.orElse "link" [] (.list Link.ofDocument) = some s.link :=
    Record.orElse_ofFields hnodup rfl (Link.readsBack_list _)
  refine ⟨nofun, ?_⟩
  simp only [ofDocument, hrecord, hhref, horg, huser, huserId, hlink, Option.bind_eq_bind,
    Option.bind_some]

/-- The numbers of a page are in range, and so are its records. -/
structure Page.InRange {α : Type} (item : α → Prop) (p : Page α) : Prop where
  page : p.page < Nat.pow 2 32
  pageSize : p.pageSize < Nat.pow 2 32
  total : p.total < Nat.pow 2 64
  record : ∀ r ∈ p.record, item r

theorem Page.readsBack {α : Type} {read : Decoder α} {write : α → Value} {item : α → Prop}
    (hitem : ∀ {r}, item r → ReadsBack read write r) {p : Page α} (h : p.InRange item) :
    ReadsBack (Page.ofDocument read) (Page.toJson write) p := by
  have hnodup : members.Nodup := by decide
  have hrenamed : (p.toJson write).toDocument.renamed "reference" "record" =
      (p.toJson write).toDocument :=
    renamed_ofFields (by decide : "reference" ∉ members) _
  have hrecord : (p.toJson write).toDocument.record? members = some (p.toJson write).record :=
    record_ofFields _ _
  have hhref : (p.toJson write).record.optional "href" .text = some p.href :=
    Record.optional_ofFields hnodup rfl fun _ _ => .text _
  have htype : (p.toJson write).record.optional "type" .text = some p.mediaType :=
    Record.optional_ofFields hnodup rfl fun _ _ => .text _
  have hname : (p.toJson write).record.optional "name" .text = some p.name :=
    Record.optional_ofFields hnodup rfl fun _ _ => .text _
  have hpage : (p.toJson write).record.orElse "page" 0 (.natural (Nat.pow 2 32)) = some p.page :=
    Record.orElse_ofFields hnodup rfl (.natural h.page)
  have hsize : (p.toJson write).record.orElse "pageSize" 0 (.natural (Nat.pow 2 32)) =
      some p.pageSize :=
    Record.orElse_ofFields hnodup rfl (.natural h.pageSize)
  have htotal : (p.toJson write).record.orElse "total" 0 (.natural (Nat.pow 2 64)) =
      some p.total :=
    Record.orElse_ofFields hnodup rfl (.natural h.total)
  have hlink : (p.toJson write).record.orElse "link" [] (.list Link.ofDocument) = some p.link :=
    Record.orElse_ofFields hnodup rfl (Link.readsBack_list _)
  have hrows : (p.toJson write).record.orElse "record" [] (.list read) = some p.record :=
    Record.orElse_ofFields hnodup rfl (.list fun r hr => hitem (h.record r hr))
  refine ⟨nofun, ?_⟩
  simp only [ofDocument, hrenamed, hrecord, hhref, htype, hname, hpage, hsize, htotal, hlink,
    hrows, Option.bind_eq_bind, Option.bind_some]

theorem VersionInfo.readsBack (v : VersionInfo) :
    ReadsBack VersionInfo.ofDocument VersionInfo.toJson v := by
  have hnodup : members.Nodup := by decide
  have hrecord : v.toJson.toDocument.record? members = some v.toJson.record := record_ofFields _ _
  have hversion : v.toJson.record.required "version" .text = some v.version :=
    Record.required_ofFields hnodup rfl (.text _)
  have hdeprecated : v.toJson.record.orElse "deprecated" false .flag = some v.deprecated :=
    Record.orElse_ofFields hnodup rfl (.flag _)
  have hlogin : v.toJson.record.optional "loginUrl" .text = some v.loginUrl :=
    Record.optional_ofFields hnodup rfl fun _ _ => .text _
  refine ⟨nofun, ?_⟩
  simp only [ofDocument, hrecord, hversion, hdeprecated, hlogin, Option.bind_eq_bind,
    Option.bind_some]

theorem SupportedVersions.readsBack (s : SupportedVersions) :
    ReadsBack SupportedVersions.ofDocument SupportedVersions.toJson s := by
  have hnodup : members.Nodup := by decide
  have hrecord : s.toJson.toDocument.record? members = some s.toJson.record := record_ofFields _ _
  have hlisted : s.toJson.record.orElse "versionInfo" [] (.list VersionInfo.ofDocument) =
      some s.listed :=
    Record.orElse_ofFields hnodup rfl (.list fun v _ => v.readsBack)
  have halpha : s.toJson.record.optional "versionInfoAlpha" VersionInfo.ofDocument =
      some s.alpha :=
    Record.optional_ofFields hnodup rfl fun v _ => v.readsBack
  refine ⟨nofun, ?_⟩
  simp only [ofDocument, hrecord, hlisted, halpha, Option.bind_eq_bind, Option.bind_some]

/-- The declared members of user information. -/
def UserInfo.fields (u : UserInfo) : List (String × Option Value) :=
  [("userName", u.userName.map .string), ("orgName", u.orgName.map .string)]

theorem UserInfo.readsBack {u : UserInfo} (h : IsRest members u.rest) :
    ReadsBack UserInfo.ofDocument UserInfo.toJson u := by
  have hrest : IsRest (u.fields.map Prod.fst) u.rest := h
  have hmembers : members.Nodup := by decide
  have hnodup : ((u.fields ++ held u.rest).map Prod.fst).Nodup := hrest.nodup hmembers
  have hrecord : u.toJson.toDocument.recordWithRest? members = some (u.toJson.record, u.rest) :=
    hrest.recordWithRest_ofFields hmembers
  have huser : u.toJson.record.optional "userName" .text = some u.userName :=
    Record.optional_ofFields hnodup rfl fun _ _ => .text _
  have horg : u.toJson.record.optional "orgName" .text = some u.orgName :=
    Record.optional_ofFields hnodup rfl fun _ _ => .text _
  refine ⟨nofun, ?_⟩
  simp only [ofDocument, hrecord, huser, horg, Option.bind_eq_bind, Option.bind_some]

theorem UserInfo.retains {ms : List (String × Value)} {u : UserInfo}
    (hms : (Value.object ms).Ordered) (h : ofDocument (Value.object ms).toDocument = some u) :
    Retains members (fun _ => none) (.object ms) u.toJson := by
  have hrecord : (Value.object ms).toDocument.recordWithRest? members = some _ :=
    recordWithRest_toDocument hms.1 fun m hm _ => hms.of_mem hm
  simp only [ofDocument, hrecord, Option.bind_eq_bind, Option.bind_some, Option.bind_eq_some_iff,
    Option.some.injEq] at h
  obtain ⟨userName, huser, orgName, horg, rfl⟩ := h
  refine @retains_ofFields (fields ⟨userName, orgName, []⟩) _ _ hms (by decide : members.Nodup) ?_
  intro name w hfield
  simp only [fields, List.mem_cons, Prod.mk.injEq, List.not_mem_nil, or_false] at hfield
  obtain ⟨rfl, rfl⟩ | ⟨rfl, rfl⟩ := hfield
  · exact Record.keepsMember_text huser
  · exact Record.keepsMember_text horg

theorem Entity.readsBack_tasks {ts : List Task} (h : ∀ t ∈ ts, t.InRange) :
    ReadsBack tasksOfDocument tasksJson ts := by
  have hnodup : ["task"].Nodup := by decide
  have hrecord : (tasksJson ts).toDocument.record? ["task"] = some (tasksJson ts).record :=
    record_ofFields _ _
  have htasks : (tasksJson ts).record.orElse "task" [] (.list Task.ofDocument) = some ts :=
    Record.orElse_ofFields hnodup rfl (.list fun t ht => Task.readsBack (h t ht))
  refine ⟨nofun, ?_⟩
  simp only [tasksOfDocument, hrecord, htasks, Option.bind_eq_bind, Option.bind_some]

/-- The tasks of an entity are in range, and its rest is one. -/
structure Entity.InRange (e : Entity) : Prop where
  tasks : ∀ ts, e.tasks = some ts → ∀ t ∈ ts, t.InRange
  rest : IsRest members e.rest

/-- The declared members of an entity. -/
def Entity.fields (e : Entity) : List (String × Option Value) :=
  [("href", e.href.map .string), ("type", e.mediaType.map .string), ("id", e.id.map .string),
    ("name", e.name.map .string), ("link", some (Link.listJson e.link)),
    ("tasks", e.tasks.map tasksJson)]

theorem Entity.readsBack {e : Entity} (h : e.InRange) :
    ReadsBack Entity.ofDocument Entity.toJson e := by
  have hrest : IsRest (e.fields.map Prod.fst) e.rest := h.rest
  have hmembers : members.Nodup := by decide
  have hnodup : ((e.fields ++ held e.rest).map Prod.fst).Nodup := hrest.nodup hmembers
  have hrecord : e.toJson.toDocument.recordWithRest? members = some (e.toJson.record, e.rest) :=
    hrest.recordWithRest_ofFields hmembers
  have hhref : e.toJson.record.optional "href" .text = some e.href :=
    Record.optional_ofFields hnodup rfl fun _ _ => .text _
  have htype : e.toJson.record.optional "type" .text = some e.mediaType :=
    Record.optional_ofFields hnodup rfl fun _ _ => .text _
  have hid : e.toJson.record.optional "id" .text = some e.id :=
    Record.optional_ofFields hnodup rfl fun _ _ => .text _
  have hname : e.toJson.record.optional "name" .text = some e.name :=
    Record.optional_ofFields hnodup rfl fun _ _ => .text _
  have hlink : e.toJson.record.orElse "link" [] (.list Link.ofDocument) = some e.link :=
    Record.orElse_ofFields hnodup rfl (Link.readsBack_list _)
  have htasks : e.toJson.record.optional "tasks" tasksOfDocument = some e.tasks :=
    Record.optional_ofFields hnodup rfl fun ts hts => readsBack_tasks (h.tasks ts hts)
  refine ⟨nofun, ?_⟩
  simp only [ofDocument, hrecord, hhref, htype, hid, hname, hlink, htasks, Option.bind_eq_bind,
    Option.bind_some]

def Entity.absent (name : String) : Option Value := if name = "link" then some (.array []) else none

theorem Entity.retains {ms : List (String × Value)} {e : Entity}
    (hms : (Value.object ms).Ordered) (h : ofDocument (Value.object ms).toDocument = some e) :
    Retains members absent (.object ms) e.toJson := by
  have hrecord : (Value.object ms).toDocument.recordWithRest? members = some _ :=
    recordWithRest_toDocument hms.1 fun m hm _ => hms.of_mem hm
  simp only [ofDocument, hrecord, Option.bind_eq_bind, Option.bind_some, Option.bind_eq_some_iff,
    Option.some.injEq] at h
  obtain ⟨href, hhref, type, htype, id, hid, name, hname, link, hlink, tasks, htasks, rfl⟩ := h
  refine @retains_ofFields (fields ⟨href, type, id, name, link, tasks, []⟩) _ _ hms
    (by decide : members.Nodup) ?_
  intro member w hfield
  simp only [fields, List.mem_cons, Prod.mk.injEq, List.not_mem_nil, or_false] at hfield
  obtain ⟨rfl, rfl⟩ | ⟨rfl, rfl⟩ | ⟨rfl, rfl⟩ | ⟨rfl, rfl⟩ | ⟨rfl, rfl⟩ | ⟨rfl, rfl⟩ := hfield
  · exact Record.keepsMember_text hhref
  · exact Record.keepsMember_text htype
  · exact Record.keepsMember_text hid
  · exact Record.keepsMember_text hname
  · have hkeeps : KeepsMember (some (Link.listJson [])) (.object ms) "link"
        (some (Link.listJson link)) := Record.keepsMember_orElse hlink rfl nofun
    exact hkeeps
  · exact Record.keepsMember_optional htasks nofun

/-- Reading undoes writing for every resource, and writing what was read of an entity or of user
information gives back what is not declared and keeps what is. -/
theorem resources_roundTrip :
    (∀ l : Link, Link.ofDocument l.toJson.toDocument = some l) ∧
    (∀ x : Reference, Reference.ofDocument x.toJson.toDocument = some x) ∧
    (∀ e : Entity, e.InRange → Entity.ofDocument e.toJson.toDocument = some e) ∧
    (∀ t : Task, t.InRange → Task.ofDocument t.toJson.toDocument = some t) ∧
    (∀ s : SessionResource, SessionResource.ofDocument s.toJson.toDocument = some s) ∧
    (∀ e : ErrorDetail, IsInt32 e.majorCode →
      ErrorDetail.ofDocument e.toJson.toDocument = some e) ∧
    (∀ p : Page TaskRecord, p.InRange TaskRecord.InRange →
      Page.ofDocument TaskRecord.ofDocument (p.toJson TaskRecord.toJson).toDocument = some p) ∧
    (∀ p : Page EventRecord, p.InRange EventRecord.InRange →
      Page.ofDocument EventRecord.ofDocument (p.toJson EventRecord.toJson).toDocument = some p) ∧
    (∀ p : Page Reference, p.InRange (fun _ => True) →
      Page.ofDocument Reference.ofDocument (p.toJson Reference.toJson).toDocument = some p) ∧
    (∀ s : SupportedVersions, SupportedVersions.ofDocument s.toJson.toDocument = some s) ∧
    (∀ u : UserInfo, IsRest UserInfo.members u.rest →
      UserInfo.ofDocument u.toJson.toDocument = some u) ∧
    (∀ ms e, (Value.object ms).Ordered → Entity.ofDocument (Value.object ms).toDocument = some e →
      Retains Entity.members Entity.absent (.object ms) e.toJson) ∧
    (∀ ms u, (Value.object ms).Ordered → UserInfo.ofDocument (Value.object ms).toDocument = some u →
      Retains UserInfo.members (fun _ => none) (.object ms) u.toJson) := by
  exact ⟨fun l => l.readsBack.same, fun x => x.readsBack.same,
    fun e h => (Entity.readsBack h).same, fun t h => (Task.readsBack h).same,
    fun s => s.readsBack.same, fun e h => (ErrorDetail.readsBack h).same,
    fun p h => (Page.readsBack TaskRecord.readsBack h).same,
    fun p h => (Page.readsBack EventRecord.readsBack h).same,
    fun p h => (Page.readsBack (fun _ => Reference.readsBack _) h).same,
    fun s => s.readsBack.same, fun u h => (UserInfo.readsBack h).same,
    fun ms e hms h => Entity.retains hms h, fun ms u hms h => UserInfo.retains hms h⟩

theorem resources_roundTrip_vm :
    let failure : ErrorDetail := ⟨some "stopped", -1, none, some "7", none⟩
    let task : Task := ⟨"t", none, some "", none, .preRunning, some ⟨10, 5⟩,
      some ⟨1483228799, 1500000000⟩, some ⟨"v", none, none, some "vm"⟩, some failure,
      [⟨"up", "v", none, some "vm"⟩]⟩
    let vm : Entity := ⟨some "v", none, some "", none, [], some [task],
      [("cpus", .ofNat 4), ("nics", .array [.object [("ip", .null)], .bool true])]⟩
    let tasks : Page TaskRecord := ⟨none, some "page", none, 2, 25, 26, [],
      [⟨"t", some "1", none, .canceled, some ⟨10, 5⟩, none⟩]⟩
    let events : Page EventRecord := ⟨none, none, some "events", 1, 1, 1, [],
      [⟨none, "boot", some "v", none, some ⟨-1, 0⟩, some (-2), none⟩]⟩
    let references : Page Reference := ⟨none, none, none, 0, 0, 0, [], [⟨"", none, none, none⟩]⟩
    let user : UserInfo := ⟨none, some "org", [("roles", .array [])]⟩
    let members : List (String × Value) :=
      [("cpus", .ofNat 4), ("href", .string "v"), ("name", .null)]
    Entity.ofDocument vm.toJson.toDocument = some vm ∧
    Task.ofDocument task.toJson.toDocument = some task ∧
    ErrorDetail.ofDocument failure.toJson.toDocument = some failure ∧
    Page.ofDocument TaskRecord.ofDocument (tasks.toJson TaskRecord.toJson).toDocument =
      some tasks ∧
    Page.ofDocument EventRecord.ofDocument (events.toJson EventRecord.toJson).toDocument =
      some events ∧
    Page.ofDocument Reference.ofDocument (references.toJson Reference.toJson).toDocument =
      some references ∧
    UserInfo.ofDocument user.toJson.toDocument = some user ∧
    Retains Entity.members Entity.absent (.object members)
      (Entity.toJson ⟨some "v", none, none, none, [], none, [("cpus", .ofNat 4)]⟩) ∧
    Retains UserInfo.members (fun _ => none) (.object members)
      (UserInfo.toJson ⟨none, none, members⟩) := by
  intro failure task vm tasks events references user members
  obtain ⟨-, -, hentity, htask, -, herror, hrows, hevents, hreferences, -, huser, hread, hother⟩ :=
    resources_roundTrip
  have hvalid : (⟨10, 5⟩ : Instant).IsValid := ⟨by decide, by decide, by decide +kernel⟩
  have hleap : (⟨1483228799, 1500000000⟩ : Instant).IsValid :=
    ⟨by decide, by decide, by decide +kernel⟩
  have hbefore : (⟨-1, 0⟩ : Instant).IsValid := ⟨by decide, by decide, by decide +kernel⟩
  have hcode : IsInt32 failure.majorCode := ⟨by decide, by decide⟩
  have htaskRange : task.InRange := by
    constructor <;> rintro _ ⟨⟩
    · exact hvalid
    · exact hleap
    · exact hcode
  have hrest : IsRest Entity.members vm.rest := by
    constructor
    · have hnic : (Value.object [("ip", .null)]).Ordered := ⟨by decide, trivial, trivial⟩
      exact ⟨by decide, trivial, ⟨hnic, trivial, trivial⟩, trivial⟩
    · decide
  have hvm : vm.InRange := by
    refine ⟨?_, hrest⟩
    rintro _ ⟨⟩ t ht
    exact List.mem_singleton.1 ht ▸ htaskRange
  have htasks : tasks.InRange TaskRecord.InRange := by
    refine ⟨by decide, by decide, by decide, fun r hr => ?_⟩
    rw [List.mem_singleton.1 hr]
    constructor <;> rintro _ ⟨⟩
    exact hvalid
  have hrecords : events.InRange EventRecord.InRange := by
    refine ⟨by decide, by decide, by decide, fun e he => ?_⟩
    rw [List.mem_singleton.1 he]
    constructor <;> rintro _ ⟨⟩
    · exact hbefore
    · exact ⟨by decide, by decide⟩
  have hnames : references.InRange fun _ => True :=
    ⟨by decide, by decide, by decide, fun _ _ => trivial⟩
  have hroles : IsRest UserInfo.members user.rest :=
    ⟨⟨by decide, trivial, trivial⟩, by decide⟩
  have hmembers : (Value.object members).Ordered := ⟨by decide, trivial, trivial, trivial, trivial⟩
  exact ⟨hentity vm hvm, htask task htaskRange, herror failure hcode, hrows tasks htasks,
    hevents events hrecords, hreferences references hnames, huser user hroles,
    hread members _ hmembers rfl, hother members _ hmembers rfl⟩

end CloudDirector
