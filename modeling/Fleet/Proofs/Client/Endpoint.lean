/-
Endpoints of a base. Every base is a URL with a scheme that requests can be made with, and so is its
text with a request path behind it, as far as the text is extensible: then the path of the endpoint
is that of the base with the request path behind it. Bases that are not extensible are accepted all
the same, and their endpoints are elsewhere (`endpoint_extends_iff`).
-/
import Fleet.Proofs.Client.ApiBase
import Fleet.Proofs.Url.Extensible

namespace Fleet

namespace ApiBase

/-! ## Endpoints -/

/-- The endpoint with a path has the server of the base, and its path is that of the base, without
a slash at its end, with the path behind it. -/
def Extends (base : ApiBase) (path : String) : Prop :=
  ∃ root text url, Url.parse base.text = .ok root ∧ base.endpoint path = .ok text ∧
    Url.parse text = .ok url ∧ Url.Continues root url path.toList

/-- Every base is a URL, and its endpoints are where they should be if and only if its text is
extensible. -/
theorem endpoint_extends_iff (base : ApiBase) {path : String}
    (request : Url.RequestPath path.toList) :
    (∃ root, Url.parse base.text = .ok root ∧ root.scheme ∈ schemes) ∧
      (base.Extends path ↔ Url.Extensible base.text) := by
  obtain ⟨root, hr, scheme⟩ := base.exists_root
  obtain ⟨special, server⟩ := special_of_mem_schemes scheme
  have made : base.endpoint path = .ok (base.text ++ path) := if_pos (by simp [request.slash])
  refine ⟨⟨root, hr, scheme⟩, ?_⟩
  rw [← Url.continues_iff_extensible hr special server request]
  constructor
  · rintro ⟨other, text, url, parsed, endpoint, read, continues⟩
    rw [hr] at parsed
    rw [made] at endpoint
    cases parsed
    cases endpoint
    exact ⟨url, read, continues⟩
  · rintro ⟨url, read, continues⟩
    exact ⟨root, _, url, hr, made, read, continues⟩

/-- A base that was given with slashes around it. -/
def apiBase : ApiBase where
  text := "http://h:8080/api"
  checked := ⟨"http://h:8080/api", by decide +kernel, by decide +kernel⟩

/-- A base with a query. -/
def queryBase : ApiBase where
  text := "http://h/api?x=1"
  checked := ⟨"http://h/api?x=1", by decide +kernel, by decide +kernel⟩

theorem apiBase_extends :
    resolve (some " http://h:8080/ ") "/api/" = .ok apiBase ∧
    Url.RequestPath "/v1/machines".toList ∧
    (∃ root, Url.parse apiBase.text = .ok root ∧ root.scheme ∈ schemes) ∧
    (apiBase.Extends "/v1/machines" ↔ Url.Extensible apiBase.text) ∧
    Url.Extensible apiBase.text := by
  have made : resolve (some " http://h:8080/ ") "/api/" = .ok apiBase := by decide +kernel
  have request : Url.RequestPath "/v1/machines".toList := by decide
  have extensible : Url.Extensible apiBase.text := by
    refine ⟨by decide, by decide, fun c hc => ?_⟩
    have last : (apiBase.text.toList.filter (!Url.isBreak ·)).getLast? = some 'i' := by decide
    obtain rfl := Option.some.inj (last.symm.trans hc)
    decide
  obtain ⟨root, extends_iff⟩ := endpoint_extends_iff apiBase request
  exact ⟨made, request, root, extends_iff, extensible⟩

/-- Not every base is extensible: the endpoints of this one are all its own path. -/
theorem query_swallows : ¬ ∀ (origin : Option String) (given : String) (base : ApiBase)
    (path : String), resolve origin given = .ok base → Url.RequestPath path.toList →
    base.Extends path := by
  intro h
  have made : resolve none "http://h/api?x=1" = .ok queryBase := by decide +kernel
  have read : Url.parse "http://h/api?x=1" = .ok
      ⟨"http", some (.domain "h"), none, .segments ["api"], some "x=1", none⟩ := by decide +kernel
  have swallowed : Url.parse "http://h/api?x=1/v1/machines" = .ok
      ⟨"http", some (.domain "h"), none, .segments ["api"], some "x=1/v1/machines", none⟩ := by
    decide +kernel
  obtain ⟨root, text, url, hr, endpoint, hu, continues⟩ :=
    h none "http://h/api?x=1" queryBase "/v1/machines" made (by decide)
  have written : queryBase.endpoint "/v1/machines" =
      .ok "http://h/api?x=1/v1/machines" := by decide +kernel
  rw [← Except.ok.inj (written.symm.trans endpoint), swallowed] at hu
  cases read.symm.trans hr
  cases hu
  exact absurd continues.query (by decide)

end ApiBase

end Fleet
