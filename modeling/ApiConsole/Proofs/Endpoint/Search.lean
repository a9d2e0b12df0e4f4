import ApiConsole.Endpoint
import ApiConsole.Proofs.Text.AsciiCase
import ApiConsole.Proofs.Text.Trim

/-!
# Searching the catalog

A search text is trimmed and put into lower case before it is looked for. Neither keeps to the parts
of a text by itself: a part may end in a blank that the whole goes on behind, or in a capital sigma.
But the catalog is in ASCII, so a search text that matches an endpoint comes out in ASCII as well, and
then its parts come out as parts (`Endpoint.matchesSearch_of_part`). Main theorem `search_narrows`:
the order of the catalog is kept, and going on with a search text only narrows what it finds.
-/
namespace ApiConsole

open Text

/-! ## Endpoints -/

/-- The texts of an endpoint in which a search looks. -/
def Endpoint.texts (e : Endpoint) : List String := [e.name, e.path, e.description]

/-- A search text as it is looked for. -/
def wanted (search : String) : List Char := lower (trim search.toList)

theorem Endpoint.matchesSearch_eq_true_iff {e : Endpoint} {search : String} :
    e.matchesSearch search = true ↔
      wanted search = [] ∨ ∃ text ∈ e.texts, wanted search <:+: lower text.toList := by
  unfold matchesSearch texts
  rw [Bool.or_eq_true, List.isEmpty_iff, List.any_eq_true]
  simp only [occursIn_iff]
  rfl

/-- The catalog is in ASCII. -/
theorem Catalog.isAscii_text {e : Endpoint} (he : e ∈ endpoints) :
    ∀ text ∈ e.texts, IsAscii text.toList := by
  obtain ⟨id, -, rfl⟩ := List.mem_map.1 he
  have hname : IsAscii id.endpoint.name.toList := by cases id <;> exact isAscii_ofList rfl
  have hpath : IsAscii id.endpoint.path.toList := by cases id <;> exact isAscii_ofList rfl
  have hdescription : IsAscii id.endpoint.description.toList := by
    cases id <;> exact isAscii_ofList rfl
  rw [Endpoint.texts, List.forall_mem_cons, List.forall_mem_cons, List.forall_mem_singleton]
  exact ⟨hname, hpath, hdescription⟩

/-- What finds something in the catalog comes out in ASCII. -/
theorem Catalog.isAscii_wanted {e : Endpoint} (he : e ∈ endpoints) {search : String}
    (h : e.matchesSearch search = true) : IsAscii (wanted search) := by
  rcases Endpoint.matchesSearch_eq_true_iff.1 h with hnil | ⟨text, htext, hoccurs⟩
  · rw [hnil]
    nofun
  · exact fun c hc => isAscii_lower (isAscii_text he text htext) c (hoccurs.subset hc)

/-- **An endpoint that matches a search text matches each part of it.** -/
theorem Endpoint.matchesSearch_of_part {e : Endpoint} (he : e ∈ Catalog.endpoints) {s t : String}
    (hst : s.toList <:+: t.toList) (h : e.matchesSearch t = true) : e.matchesSearch s = true := by
  have hpart : wanted s <:+: wanted t :=
    lower_infix_lower (trim_infix_trim hst) (Catalog.isAscii_wanted he h)
  rw [matchesSearch_eq_true_iff] at h ⊢
  rcases h with hnil | ⟨text, htext, hoccurs⟩
  · rw [hnil] at hpart
    exact .inl (List.eq_nil_of_infix_nil hpart)
  · exact .inr ⟨text, htext, hpart.trans hoccurs⟩

/-- An endpoint matches each part of its own texts. -/
theorem Endpoint.matchesSearch_text {e : Endpoint} (he : e ∈ Catalog.endpoints) {text : String}
    (htext : text ∈ e.texts) {s : String} (h : s.toList <:+: text.toList) :
    e.matchesSearch s = true := by
  have hlower := isAscii_lower (Catalog.isAscii_text he text htext)
  have hpart := lower_infix_lower ((trim_infix_self s.toList).trans h) hlower
  exact matchesSearch_eq_true_iff.2 (.inr ⟨text, htext, hpart⟩)

theorem Endpoint.matchesSearch_congr {s t : String} (h : wanted s = wanted t) (e : Endpoint) :
    e.matchesSearch s = e.matchesSearch t := by
  rw [Bool.eq_iff_iff, matchesSearch_eq_true_iff, matchesSearch_eq_true_iff, h]

/-! ## Results -/

namespace Catalog

theorem filter_congr {s t : String} (h : wanted s = wanted t) (category : CategoryFilter) :
    filter category s = filter category t := by
  unfold filter
  congr 1
  funext e
  rw [Endpoint.matchesSearch_congr h]

/-- Going on with a search text picks from what it has found. -/
theorem filter_of_part {s t : String} (h : s.toList <:+: t.toList) (category : CategoryFilter) :
    filter category t = (filter category s).filter (·.matchesSearch t) := by
  unfold filter
  rw [List.filter_filter]
  refine List.filter_congr fun e he => ?_
  rw [Bool.eq_iff_iff]
  simp only [Bool.and_eq_true]
  constructor
  · rintro ⟨hcategory, ht⟩
    exact ⟨ht, hcategory, Endpoint.matchesSearch_of_part he h ht⟩
  · rintro ⟨ht, hcategory, -⟩
    exact ⟨hcategory, ht⟩

theorem filter_only (c : Category) (search : String) :
    filter (.only c) search = (filter .all search).filter (·.category == c) := by
  unfold filter
  rw [List.filter_filter]
  refine List.filter_congr fun e _ => ?_
  rw [CategoryFilter.passes, CategoryFilter.passes, Bool.true_and, BEq.comm]

/-- **Searching keeps the order of the catalog, and more search text finds less.** Each piece of the
texts of an endpoint finds it, blanks around a search text and the case of its ASCII letters change
nothing, and the results of a category are those of the whole catalog that belong to it. -/
theorem search_narrows :
    (∀ category search, (filter category search).Sublist endpoints) ∧
    (∀ category (s t : String), s.toList <:+: t.toList →
      (filter category t).Sublist (filter category s)) ∧
    (∀ e ∈ endpoints, ∀ text ∈ [e.name, e.path, e.description], ∀ s : String,
      s.toList <:+: text.toList → e ∈ filter .all s) ∧
    (∀ category (pre s post : List Char), (∀ c ∈ pre, isBlank c = true) →
      (∀ c ∈ post, isBlank c = true) →
      filter category (String.ofList (pre ++ s ++ post)) = filter category (String.ofList s)) ∧
    (∀ category (s t : String), SameUpToAsciiCase s.toList t.toList →
      filter category s = filter category t) ∧
    ∀ c search, filter (.only c) search = (filter .all search).filter (·.category == c) := by
  refine ⟨fun _ _ => List.filter_sublist, ?_, ?_, ?_, ?_, filter_only⟩
  · intro category s t h
    rw [filter_of_part h category]
    exact List.filter_sublist
  · intro e he text htext s h
    exact List.mem_filter.2 ⟨he, Endpoint.matchesSearch_text he htext h⟩
  · intro category pre s post hpre hpost
    refine filter_congr ?_ category
    rw [wanted, wanted, String.toList_ofList, String.toList_ofList, trim_pad hpre hpost]
  · intro category s t h
    exact filter_congr (lower_eq_of_ascii (trim_ascii h)) category

/-- In lower case the Kelvin sign is a k, so a search text that ends in it finds the health check, as do
the parts of that text. -/
theorem search_narrows_kelvin :
    EndpointId.health.endpoint ∈ filter .all "health chec\u212a" ∧
      (filter .all "health chec\u212a").Sublist (filter .all "h chec") ∧
      EndpointId.health.endpoint ∈ filter .all "lth Ch" ∧
      filter .all (String.ofList (['\u00a0'] ++ "h chec".toList ++ ['\n'])) =
        filter .all (String.ofList "h chec".toList) ∧
      filter .all "H CHEC" = filter .all "h chec" := by
  obtain ⟨-, hnarrow, hown, hpad, hcase, -⟩ := search_narrows
  have hpart : "h chec".toList <:+: "health chec\u212a".toList :=
    ⟨"healt".toList, ['\u212a'], by decide⟩
  have hpiece : "lth Ch".toList <:+: "Health Check".toList :=
    ⟨"Hea".toList, "eck".toList, by decide⟩
  have hblank : ∀ c ∈ ['\u00a0'], isBlank c = true := List.all_eq_true.1 (by decide)
  have hbreak : ∀ c ∈ ['\n'], isBlank c = true := List.all_eq_true.1 (by decide)
  have hfound : EndpointId.health.endpoint.matchesSearch "health chec\u212a" = true := by
    decide +kernel
  exact ⟨List.mem_filter.2 ⟨mem_endpoints .health, hfound⟩, hnarrow .all _ _ hpart,
    hown _ (mem_endpoints .health) "Health Check" (.head _) _ hpiece,
    hpad .all _ _ _ hblank hbreak, hcase .all "H CHEC" "h chec" (by rfl)⟩

end Catalog

end ApiConsole
