import CloudDirector.Proofs.Credential.Description
import CloudDirector.Session.State

/-!
# What descriptions of a context show

The description of a context, and that of the session token that it exports, are the same whatever
its secrets are. Of these it shows which there are, and all else but what a session knows besides
its address.
-/
namespace CloudDirector.AuthState
open Text Http

variable {x y : AuthState}

def withoutSecrets (x : AuthState) : AuthState :=
  { x with
    credentials := x.credentials.map Credentials.withoutSecrets
    jwt := x.jwt.map fun _ => ""
    token := x.token.map fun _ => ""
    cookies := x.cookies.map fun cookie => (cookie.1, "") }

theorem description_withoutSecrets (x : AuthState) :
    x.withoutSecrets.description = x.description := by
  have hcredentials : x.withoutSecrets.credentials.map Credentials.description =
      x.credentials.map Credentials.description := by
    simp [withoutSecrets, Function.comp_def, Credentials.description_withoutSecrets]
  have hjwt : x.withoutSecrets.jwt.isSome = x.jwt.isSome := Option.isSome_map
  have htoken : x.withoutSecrets.token.isSome = x.token.isSome := Option.isSome_map
  have hcookies : x.withoutSecrets.cookies.map Prod.fst = x.cookies.map Prod.fst := by
    simp [withoutSecrets, Function.comp_def]
  unfold description
  rw [hcredentials, hjwt, htoken, hcookies]
  rfl

/-- What the descriptions of two states show is the same. -/
structure ShowsSame (x y : AuthState) : Prop where
  credentials : Option.Rel Credentials.ShowsSame x.credentials y.credentials
  jwt : x.jwt.isSome = y.jwt.isSome
  authContext : x.authContext = y.authContext
  tenant : x.tenant = y.tenant
  token : x.token.isSome = y.token.isSome
  cookies : x.cookies.map Prod.fst = y.cookies.map Prod.fst
  session : (x.session.map fun s => s.href.text) = y.session.map fun s => s.href.text

/-- The identifiers of the credentials have all their digits. -/
def HasIdentifiers (x : AuthState) : Prop := ∀ c ∈ x.credentials, c.HasIdentifiers

theorem ShowsSame.description_eq (h : x.ShowsSame y) : x.description = y.description := by
  have hcredentials : x.credentials.map Credentials.description =
      y.credentials.map Credentials.description := by
    have hrel := h.credentials
    generalize x.credentials = c at hrel ⊢
    generalize y.credentials = c' at hrel ⊢
    cases hrel with
    | none => rfl
    | some hsame => exact congrArg some hsame.description_eq
  unfold description
  rw [hcredentials, h.jwt, h.authContext, h.tenant, h.token, h.cookies, h.session]

theorem description_eq_iff (hx : x.HasIdentifiers) (hy : y.HasIdentifiers) :
    x.description = y.description ↔ x.ShowsSame y := by
  refine ⟨fun heq => ?_, ShowsSame.description_eq⟩
  have hseparate : ∀ s ∈ x.credentials.map Credentials.description,
      ∀ t ∈ y.credentials.map Credentials.description, Separate s t := by
    intro s hs t ht rest rest' heq
    obtain ⟨c, hc, rfl⟩ := Option.map_eq_some_iff.1 hs
    obtain ⟨c', hc', rfl⟩ := Option.map_eq_some_iff.1 ht
    exact (Credentials.showsSame_of_description (hx c hc) (hy c' hc') heq).description_eq
  have hcredentials : Separate (describedOption (x.credentials.map Credentials.description))
      (describedOption (y.credentials.map Credentials.description)) :=
    fun _ _ h => congrArg describedOption (describedOption_inj hseparate h)
  unfold description at heq
  have hfields := described_inj (.cons "credentials" hcredentials
    (.cons "has_jwt" (prefixFree_describedBool.separate _ _)
    (.cons "auth_context" (prefixFree_quotedOption.separate _ _)
    (.cons "tenant_context" (prefixFree_quotedOption.separate _ _)
    (.cons "has_auth_token" (prefixFree_describedBool.separate _ _)
    (.cons "cookies" (prefixFree_describedTexts.separate _ _)
    (.cons "session" (prefixFree_quotedOption.separate _ _) .nil))))))) (congrArg (· ++ "") heq)
  simp only [List.cons.injEq, Prod.mk.injEq, true_and, and_true,
    prefixFree_describedBool.injective.eq_iff, prefixFree_quotedOption.injective.eq_iff,
    prefixFree_describedTexts.injective.eq_iff] at hfields
  obtain ⟨hlogin, hjwt, hcontext, htenant, htoken, hcookies, hsession⟩ := hfields
  refine ⟨?_, hjwt, hcontext, htenant, htoken, hcookies, hsession⟩
  have hmap := describedOption_inj hseparate (congrArg (· ++ "") hlogin)
  cases hc : x.credentials <;> cases hc' : y.credentials <;> rw [hc, hc'] at hmap
  case none.none => exact .none
  case some.some c c' =>
    exact .some ((Credentials.description_eq_iff (hx c hc) (hy c' hc')).1 (Option.some.inj hmap))
  all_goals cases hmap

/-- States that differ in nothing but their secrets have the same description, and so have the
session tokens that they export. States of the same description agree in all else that they show. -/
theorem secrets_hidden (x y : AuthState) :
    (x.withoutSecrets = y.withoutSecrets →
      x.description = y.description ∧
        x.sessionToken?.map SessionToken.description =
          y.sessionToken?.map SessionToken.description) ∧
    (x.HasIdentifiers → y.HasIdentifiers → (x.description = y.description ↔ x.ShowsSame y)) := by
  refine ⟨fun h => ⟨?_, ?_⟩, description_eq_iff⟩
  · rw [← description_withoutSecrets x, h, description_withoutSecrets]
  · have htoken : x.token.isSome = y.token.isSome := by
      have hsome := congrArg (fun z => z.token.isSome) h
      simpa [withoutSecrets] using hsome
    unfold sessionToken?
    cases hx : x.token <;> cases hy : y.token <;> rw [hx, hy] at htoken
    case none.none | some.some => rfl
    all_goals cases htoken

/-- A user of another site behind two marks of a provider, with a session of both kinds. -/
def ofSiteUser (key : List UInt8) (secret tenant : String) : AuthState where
  credentials := some (.provider (.provider (.multisite
    ⟨⟨List.replicate 32 'a'⟩, ⟨List.replicate 32 'b'⟩, "alice@acme", ⟨key⟩, .second⟩)))
  jwt := some secret
  authContext := some "context"
  tenant := some tenant
  token := some secret
  cookies := [(CookieName.legacy, secret)]
  session := none

/-- Keys, tokens and cookies show in no description, and a tenant does. -/
theorem secrets_hidden_of_siteUser :
    (ofSiteUser [1] "abc" "org").withoutSecrets = (ofSiteUser [2] "xyz" "org").withoutSecrets ∧
    (ofSiteUser [1] "abc" "org").description = (ofSiteUser [2] "xyz" "org").description ∧
    (ofSiteUser [1] "abc" "org").sessionToken?.map SessionToken.description =
      (ofSiteUser [2] "xyz" "org").sessionToken?.map SessionToken.description ∧
    (ofSiteUser [1] "abc" "org").HasIdentifiers ∧ (ofSiteUser [1] "abc" "east").HasIdentifiers ∧
    (ofSiteUser [1] "abc" "org").description ≠ (ofSiteUser [1] "abc" "east").description := by
  have hidentifiers (tenant : String) : (ofSiteUser [1] "abc" tenant).HasIdentifiers := by
    rintro c ⟨⟩
    exact ⟨rfl, rfl⟩
  obtain ⟨hstate, htoken⟩ :=
    (secrets_hidden (ofSiteUser [1] "abc" "org") (ofSiteUser [2] "xyz" "org")).1 rfl
  refine ⟨rfl, hstate, htoken, hidentifiers _, hidentifiers _, fun heq => ?_⟩
  have hshows := ((secrets_hidden _ _).2 (hidentifiers "org") (hidentifiers "east")).1 heq
  exact absurd hshows.tenant (by decide)

end CloudDirector.AuthState
