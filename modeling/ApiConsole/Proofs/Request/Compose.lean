import ApiConsole.Endpoint
import ApiConsole.Proofs.Text.Trim
import ApiConsole.Request
import Mathlib.Tactic.Common

/-!
# Composed URLs

Path and query are put into normal form when they are stored, and once more when a URL is composed
from them. For a path the second time changes nothing (`normalizePath_idem`). For a query it may:
only one question mark is dropped, and what stood behind it may begin with a blank or with another
question mark. `normalizeQuery_eq_self_iff` says which queries stay as they are, and
`composeUrl_eq_iff` that exactly these stand in the URL as they are stored.
-/
namespace ApiConsole

open Text

/-! ## Paths -/

/-- A slash with the end of a trimmed text behind it. -/
theorem trimmed_slash_cons {s : List Char} (h : Trimmed s) (p : Char → Bool) :
    Trimmed ('/' :: s.dropWhile p) := by
  constructor
  · intro c hc
    cases hc
    decide
  · intro c hc
    rw [List.getLast?_cons] at hc
    cases hlast : (s.dropWhile p).getLast? with
    | none =>
      rw [hlast] at hc
      cases hc
      decide
    | some d =>
      rw [hlast] at hc
      cases hc
      exact h.last _ (getLast?_dropWhile hlast)

theorem normalizePath_idem (path : String) :
    normalizePath (normalizePath path) = normalizePath path := by
  have htrim := (trimmed_slash_cons (trimmed_trim path.toList) (· == '/')).trim_eq
  unfold normalizePath
  rw [String.toList_ofList, htrim, List.dropWhile_cons_of_pos (by rfl), List.dropWhile_idempotent]

/-- The path of an endpoint is in normal form. -/
theorem normalizePath_endpoint (id : EndpointId) :
    normalizePath id.endpoint.path = id.endpoint.path := by
  cases id <;> decide +kernel

/-! ## Queries -/

/-- A query that begins neither with a blank nor with a question mark. -/
def StartsPlain (query : String) : Prop :=
  ∀ c ∈ query.toList.head?, isBlank c = false ∧ c ≠ '?'

instance (query : String) : Decidable (StartsPlain query) :=
  decidable_of_iff (query.toList.head?.all (fun c => !isBlank c && c != '?') = true) (by
    simp [StartsPlain, Option.all_eq_true])

/-- A query without the question mark at its start, if it has one. -/
def dropMark : List Char → List Char
  | '?' :: rest => rest
  | rest => rest

theorem toList_normalizeQuery (query : String) :
    (normalizeQuery query).toList = dropMark (trim query.toList) := String.toList_ofList

theorem dropMark_of_ne {s : List Char} (h : ∀ c ∈ s.head?, c ≠ '?') : dropMark s = s := by
  unfold dropMark
  split
  · exact absurd rfl (h '?' rfl)
  · rfl

/-- The end of a query in normal form is not a blank. -/
theorem last_normalizeQuery {query : String} {c : Char}
    (h : c ∈ (normalizeQuery query).toList.getLast?) : isBlank c = false := by
  rw [toList_normalizeQuery] at h
  apply (trimmed_trim query.toList).last
  unfold dropMark at h
  split at h
  · next rest hrest =>
    rw [hrest, List.getLast?_cons, Option.mem_def.1 h]
    rfl
  · exact h

/-- **Queries that a second normalization leaves as they are.** -/
theorem normalizeQuery_eq_self_iff {query : String} :
    normalizeQuery query = query ↔ Trimmed query.toList ∧ ∀ c ∈ query.toList.head?, c ≠ '?' := by
  rw [← String.toList_inj, toList_normalizeQuery]
  constructor
  · intro h
    have hlen := length_trim_le query.toList
    unfold dropMark at h
    split at h
    · next rest hrest =>
      -- With the question mark dropped the query would be shorter than itself.
      rw [hrest, ← h, List.length_cons] at hlen
      omega
    · next hne =>
      refine ⟨trim_eq_self_iff.1 h, ?_⟩
      intro c hc
      rw [h] at hne
      cases hs : query.toList with
      | nil => simp [hs] at hc
      | cons d rest =>
        rw [hs] at hc
        cases hc
        rintro rfl
        exact hne rest hs
  · rintro ⟨htrim, hmark⟩
    rw [htrim.trim_eq, dropMark_of_ne hmark]

/-- A query that was put into normal form stays as it is if what stood behind its question mark
begins neither with a blank nor with another one. -/
theorem normalizeQuery_idem_iff {query : String} :
    normalizeQuery (normalizeQuery query) = normalizeQuery query ↔
      StartsPlain (normalizeQuery query) := by
  rw [normalizeQuery_eq_self_iff]
  constructor
  · rintro ⟨htrim, hmark⟩ c hc
    exact ⟨htrim.head c hc, hmark c hc⟩
  · intro h
    exact ⟨⟨fun c hc => (h c hc).1, fun c hc => last_normalizeQuery hc⟩, fun c hc => (h c hc).2⟩

@[simp] theorem normalizeQuery_empty : normalizeQuery "" = "" := by decide

/-! ## URLs -/

/-- What a query adds to a URL. -/
def querySuffix (query : String) : String := if query.isEmpty then "" else "?" ++ query

theorem querySuffix_inj {a b : String} : querySuffix a = querySuffix b ↔ a = b := by
  have hlist : ∀ q : String,
      (querySuffix q).toList = if q.toList = [] then [] else '?' :: q.toList := by
    intro q
    unfold querySuffix
    by_cases hq : q = ""
    · subst hq; rfl
    · have hne : q.toList ≠ [] := by simpa using hq
      have hemp : q.isEmpty = false := by simpa using hq
      simp [hemp, hne]
  constructor
  · intro h
    have h' := congrArg String.toList h
    rw [hlist, hlist] at h'
    apply String.toList_inj.1
    by_cases ha : a.toList = [] <;> by_cases hb : b.toList = [] <;> simp_all
  · rintro rfl
    rfl

theorem composeUrl_eq (base path query : String) :
    composeUrl base path query =
      normalizeBase base ++ normalizePath path ++ querySuffix (normalizeQuery query) := by
  unfold composeUrl querySuffix
  by_cases h : (normalizeQuery query).isEmpty
  · simp [h]
  · simp [h, String.append_assoc]

/-- A path in normal form stands in the URL as it is. A query does if a second normalization leaves
it as it is, and only then. -/
theorem composeUrl_eq_iff {base path query : String} (hpath : normalizePath path = path) :
    composeUrl base path query = normalizeBase base ++ path ++ querySuffix query ↔
      normalizeQuery query = query := by
  rw [composeUrl_eq, hpath, String.append_right_inj, querySuffix_inj]

end ApiConsole
