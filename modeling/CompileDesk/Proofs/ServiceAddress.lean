import CompileDesk.Command.Desk
import Mathlib.Data.List.DropRight

/-!
# Addresses of the service

Validation looks for the scheme in the trimmed address, but requests go to the address as it stands,
without the slashes at its end. The two agree where the address begins with the scheme and goes on with
something besides slashes. Blanks in front of the scheme pass the validation and stay in front of
every request, and of a scheme alone the slashes are lost.
-/

namespace CompileDesk

/-- Dropping from the end of a text stops in its last part, unless all of that part is dropped. -/
theorem Text.rdropWhile_append (p : Char → Bool) (before after : List Char) :
    (before ++ after).rdropWhile p =
      if after.rdropWhile p = [] then before.rdropWhile p else before ++ after.rdropWhile p := by
  have turned : (before ++ after).rdropWhile p =
      ((after.reverse ++ before.reverse).dropWhile p).reverse := by
    rw [List.rdropWhile, List.reverse_append]
  rw [turned, List.dropWhile_append]
  by_cases gone : after.reverse.dropWhile p = []
  · simp [List.rdropWhile, gone]
  · simp [List.rdropWhile, gone]

namespace Settings

def schemes : List String := ["http://", "https://"]

/-- The address has a scheme right at its beginning. -/
def HasScheme (url : String) : Prop := ∃ scheme ∈ schemes, scheme.toList <+: url.toList

instance (url : String) : Decidable (HasScheme url) :=
  inferInstanceAs (Decidable (∃ scheme ∈ schemes, scheme.toList <+: url.toList))

/-- The address has a scheme right at its beginning, and goes on with something besides slashes. -/
def GoesPastScheme (url : String) : Prop :=
  ∃ scheme ∈ schemes, ∃ rest, url.toList = scheme.toList ++ rest ∧ ∃ c ∈ rest, c ≠ '/'

theorem getLast?_of_mem_schemes {scheme : String} (h : scheme ∈ schemes) :
    scheme.toList.getLast? = some '/' := by
  simp only [schemes, List.mem_cons, List.not_mem_nil, or_false] at h
  rcases h with rfl | rfl <;> decide

theorem fault?_eq_none_iff {s : Settings} :
    s.fault? = none ↔ HasScheme (Text.trimmed s.serverUrl) ∧ Text.blank s.renderer = false := by
  have scheme : HasScheme (Text.trimmed s.serverUrl) ↔
      Text.startsWith (Text.trimmed s.serverUrl) "http://" = true ∨
        Text.startsWith (Text.trimmed s.serverUrl) "https://" = true := by
    simp [HasScheme, schemes, Text.startsWith, List.isPrefixOf_iff_prefix]
  rw [scheme, fault?]
  cases Text.startsWith (Text.trimmed s.serverUrl) "http://" <;>
    cases Text.startsWith (Text.trimmed s.serverUrl) "https://" <;>
      cases Text.blank s.renderer <;> simp

/-! ## Slashes at the end -/

theorem toList_withoutSlashes (url : String) :
    (withoutSlashes url).toList = url.toList.rdropWhile (· == '/') := by
  rw [withoutSlashes, String.toList_ofList]
  rfl

theorem withoutSlashes_withoutSlashes (url : String) :
    withoutSlashes (withoutSlashes url) = withoutSlashes url := by
  rw [← String.toList_inj, toList_withoutSlashes, toList_withoutSlashes, List.rdropWhile_idempotent]

theorem service_endpoint (s : Settings) : s.service.endpoint = s.baseUrl :=
  withoutSlashes_withoutSlashes s.serverUrl

theorem getLast?_withoutSlashes (url : String) : (withoutSlashes url).toList.getLast? ≠ some '/' := by
  rw [toList_withoutSlashes]
  intro last
  have nonempty : url.toList.rdropWhile (· == '/') ≠ [] := by
    intro empty
    simp [empty] at last
  rw [List.getLast?_eq_some_getLast nonempty] at last
  have other := List.rdropWhile_last_not (· == '/') url.toList nonempty
  rw [Option.some.inj last] at other
  exact other rfl

/-- The slashes of the scheme stay exactly when something besides slashes follows them. -/
theorem hasScheme_withoutSlashes_iff (url : String) :
    HasScheme (withoutSlashes url) ↔ GoesPastScheme url := by
  constructor
  · rintro ⟨scheme, known, rest, kept⟩
    have whole : url.toList = scheme.toList ++ (rest ++ url.toList.rtakeWhile (· == '/')) := by
      rw [← List.append_assoc, kept, toList_withoutSlashes, List.rdropWhile_append_rtakeWhile]
    have last := getLast?_withoutSlashes url
    rw [← kept, List.getLast?_append] at last
    cases ends : rest.getLast? with
    | none =>
      rw [ends, Option.none_or, getLast?_of_mem_schemes known] at last
      exact absurd rfl last
    | some c =>
      rw [ends, Option.some_or] at last
      exact ⟨scheme, known, _, whole, c, List.mem_append_left _ (List.mem_of_getLast? ends),
        fun slash => last (congrArg some slash)⟩
  · rintro ⟨scheme, known, rest, whole, c, there, other⟩
    refine ⟨scheme, known, ?_⟩
    have stays : rest.rdropWhile (· == '/') ≠ [] := by
      intro gone
      exact other (beq_iff_eq.mp (List.rdropWhile_eq_nil_iff.mp gone c there))
    rw [toList_withoutSlashes, whole, Text.rdropWhile_append, if_neg stays]
    exact List.prefix_append _ _

/-- A scheme at the beginning is found by the validation. -/
theorem GoesPastScheme.trimmed {url : String} (h : GoesPastScheme url) : HasScheme (Text.trimmed url) := by
  obtain ⟨scheme, known, rest, whole, _⟩ := h
  refine ⟨scheme, known, ?_⟩
  have front : Text.trimStart (scheme.toList ++ rest) = scheme.toList ++ rest := by
    simp only [schemes, List.mem_cons, List.not_mem_nil, or_false] at known
    rcases known with rfl | rfl <;> rfl
  have back : scheme.toList.rdropWhile Text.isBlank = scheme.toList := by
    simp only [schemes, List.mem_cons, List.not_mem_nil, or_false] at known
    rcases known with rfl | rfl <;> decide
  rw [Text.trimmed, String.toList_ofList, Text.trim, whole, front]
  change scheme.toList <+: (scheme.toList ++ rest).rdropWhile Text.isBlank
  rw [Text.rdropWhile_append, back]
  split
  · exact List.prefix_refl _
  · exact List.prefix_append _ _

/-- The address that requests go to keeps its scheme exactly if the address of the settings begins with
the scheme and goes on with something besides slashes, which is more than the validation asks for.
It never ends with a slash, the service is known by it, and each request adds its own path to it. -/
theorem baseUrl_hasScheme_iff (s : Settings) :
    (HasScheme s.baseUrl ↔ GoesPastScheme s.serverUrl) ∧
    (GoesPastScheme s.serverUrl → Text.blank s.renderer = false → s.fault? = none) ∧
    s.baseUrl.toList.getLast? ≠ some '/' ∧
    s.service.endpoint = s.baseUrl ∧
    (∀ source, (s.service.compileRequest source).url = s.baseUrl ++ "/compile") ∧
    (∀ credentials, (s.service.loginRequest credentials).url = s.baseUrl ++ "/login") ∧
    s.service.healthRequest.url = s.baseUrl ++ "/" := by
  refine ⟨hasScheme_withoutSlashes_iff s.serverUrl, ?_, getLast?_withoutSlashes s.serverUrl,
    s.service_endpoint, fun _ => ?_, fun _ => ?_, ?_⟩
  · exact fun more renderer => fault?_eq_none_iff.mpr ⟨more.trimmed, renderer⟩
  · exact congrArg (· ++ "/compile") s.service_endpoint
  · exact congrArg (· ++ "/login") s.service_endpoint
  · exact congrArg (· ++ "/") s.service_endpoint

def indented : Settings := { serverUrl := " http://127.0.0.1:4567" }

def schemeOnly : Settings := { serverUrl := "http://" }

/-- Both are valid; neither leaves a scheme at the beginning of the requests. -/
theorem valid_without_scheme :
    (indented.fault? = none ∧ ¬ HasScheme indented.baseUrl) ∧
      schemeOnly.fault? = none ∧ ¬ HasScheme schemeOnly.baseUrl := by
  decide +kernel

end Settings
end CompileDesk
