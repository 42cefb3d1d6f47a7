import Mathlib.Data.List.DropRight
import IntentProvider.Config.Text
import IntentProvider.Provider.Basic

/-!
The URL of the engine in settings that have been accepted. All slashes are taken off its end, and
nothing else is; where nothing but slashes follows the scheme, those of the scheme go with them.
Main statement: what is left names an engine exactly if the URL in the settings does.
-/

namespace IntentProvider

namespace Client

theorem toList_trimSlashes (s : String) :
    (trimSlashes s).toList = s.toList.rdropWhile (· == '/') := by
  rw [trimSlashes, String.toList_ofList]
  rfl

theorem trimSlashes_trimSlashes (s : String) : trimSlashes (trimSlashes s) = trimSlashes s := by
  rw [← String.toList_inj, toList_trimSlashes, toList_trimSlashes]
  exact List.rdropWhile_idempotent _ _

theorem getLast?_trimSlashes (s : String) : (trimSlashes s).toList.getLast? ≠ some '/' := by
  rw [toList_trimSlashes]
  intro hlast
  obtain ⟨hne, hslash⟩ := List.mem_getLast?_eq_getLast hlast
  exact List.rdropWhile_last_not (· == '/') s.toList hne (by simp [← hslash])

theorem exists_toList_eq_trimSlashes_append (s : String) :
    ∃ n, s.toList = (trimSlashes s).toList ++ List.replicate n '/' := by
  refine ⟨(s.toList.rtakeWhile (· == '/')).length, ?_⟩
  have hslashes : s.toList.rtakeWhile (· == '/') =
      List.replicate (s.toList.rtakeWhile (· == '/')).length '/' := by
    refine List.eq_replicate_of_mem fun c hc => ?_
    simpa using List.mem_rtakeWhile_imp hc
  rw [toList_trimSlashes, ← hslashes, List.rdropWhile_append_rtakeWhile]

end Client

/-- What stands in front of the host in a URL of HTTP. -/
def httpSchemes : List String :=
  ["http://", "https://"]

/-- A URL in which the scheme of HTTP is followed at once by a character that is no slash. -/
def NamesHost (url : List Char) : Prop :=
  ∃ scheme ∈ httpSchemes, ∃ rest, url = scheme.toList ++ rest ∧ ∃ c ∈ rest.head?, c ≠ '/'

/-- A URL in which the scheme of HTTP is followed by more than slashes. -/
def GoesOn (url : List Char) : Prop :=
  ∃ scheme ∈ httpSchemes, ∃ rest, url = scheme.toList ++ rest ∧ ∃ c ∈ rest, c ≠ '/'

section Trim

variable (before : List Char) {rest : List Char}

theorem rdropWhile_append_of_mem {c : Char} (hc : c ∈ rest) (hslash : c ≠ '/') :
    (before ++ rest).rdropWhile (· == '/') = before ++ rest.rdropWhile (· == '/') := by
  have hmore : (rest.reverse.dropWhile (· == '/')).isEmpty = false := by
    rw [Bool.eq_false_iff]
    simp only [ne_eq, List.isEmpty_iff, List.dropWhile_eq_nil_iff, List.mem_reverse]
    exact fun h => hslash (by simpa using h c hc)
  simp [List.rdropWhile, List.dropWhile_append, hmore]

theorem rdropWhile_append_of_forall (h : ∀ c ∈ rest, c = '/') :
    (before ++ rest).rdropWhile (· == '/') = before.rdropWhile (· == '/') := by
  induction rest using List.reverseRecOn with
  | nil => rw [List.append_nil]
  | append_singleton rest c ih =>
      have hc : c = '/' := h c (by simp)
      rw [← List.append_assoc, List.rdropWhile_concat_pos _ _ _ (by simp [hc])]
      exact ih fun d hd => h d (List.mem_append_left _ hd)

theorem head?_rdropWhile {c : Char} (hc : c ∈ rest.head?) (hslash : c ≠ '/') :
    c ∈ (rest.rdropWhile (· == '/')).head? := by
  obtain ⟨tail, rfl⟩ : ∃ tail, rest = c :: tail := ⟨_, List.eq_cons_of_mem_head? hc⟩
  by_cases hmore : ∃ d ∈ tail, d ≠ '/'
  · obtain ⟨d, hd, hne⟩ := hmore
    have htrim := rdropWhile_append_of_mem [c] hd hne
    rw [List.singleton_append] at htrim
    simp [htrim]
  · have hall : ∀ d ∈ tail, d = '/' := by simpa using hmore
    have htrim := rdropWhile_append_of_forall [c] hall
    rw [List.singleton_append, List.rdropWhile_singleton, if_neg (by simpa using hslash)] at htrim
    simp [htrim]

end Trim

section Url

variable {url : String}

theorem toList_eq_of_trimSlashes_eq {scheme : String} {rest : List Char}
    (h : (Client.trimSlashes url).toList = scheme.toList ++ rest) :
    ∃ n, url.toList = scheme.toList ++ (rest ++ List.replicate n '/') := by
  obtain ⟨n, hn⟩ := Client.exists_toList_eq_trimSlashes_append url
  exact ⟨n, by rw [hn, h, List.append_assoc]⟩

theorem namesHost_trimSlashes_iff :
    NamesHost (Client.trimSlashes url).toList ↔ NamesHost url.toList := by
  constructor
  · rintro ⟨scheme, hscheme, rest, hurl, c, hc, hne⟩
    obtain ⟨n, hn⟩ := toList_eq_of_trimSlashes_eq hurl
    refine ⟨scheme, hscheme, _, hn, c, ?_, hne⟩
    rw [List.eq_cons_of_mem_head? hc]
    simp
  · rintro ⟨scheme, hscheme, rest, hurl, c, hc, hne⟩
    refine ⟨scheme, hscheme, rest.rdropWhile (· == '/'), ?_, c, head?_rdropWhile hc hne, hne⟩
    rw [Client.toList_trimSlashes, hurl, rdropWhile_append_of_mem _ (List.mem_of_mem_head? hc) hne]

theorem goesOn_trimSlashes_iff :
    GoesOn (Client.trimSlashes url).toList ↔ GoesOn url.toList := by
  constructor
  · rintro ⟨scheme, hscheme, rest, hurl, c, hc, hne⟩
    obtain ⟨n, hn⟩ := toList_eq_of_trimSlashes_eq hurl
    exact ⟨scheme, hscheme, _, hn, c, List.mem_append_left _ hc, hne⟩
  · rintro ⟨scheme, hscheme, rest, hurl, c, hc, hne⟩
    have htrim := rdropWhile_append_of_mem scheme.toList hc hne
    refine ⟨scheme, hscheme, rest.rdropWhile (· == '/'), ?_, c, ?_, hne⟩
    · rw [Client.toList_trimSlashes, hurl, htrim]
    -- the character is not among the slashes that are taken off
    · rw [← @List.rdropWhile_append_rtakeWhile _ (· == '/') rest, List.mem_append] at hc
      refine hc.resolve_right fun hlate => hne ?_
      simpa using List.mem_rtakeWhile_imp hlate

theorem isHttpUrl_iff : Config.isHttpUrl url = true ↔
    ∃ scheme ∈ httpSchemes, ∃ rest, url.toList = scheme.toList ++ rest := by
  rw [Config.isHttpUrl, Bool.or_eq_true, List.isPrefixOf_iff_prefix, List.isPrefixOf_iff_prefix]
  simp only [httpSchemes, List.mem_cons, List.not_mem_nil, or_false, exists_eq_or_imp,
    exists_eq_left, List.IsPrefix, eq_comm]

/-- A URL that ends with its scheme, or with slashes after it, loses the slashes of the scheme. -/
theorem trimSlashes_of_not_goesOn (hurl : Config.isHttpUrl url = true)
    (h : ¬ GoesOn url.toList) : Client.trimSlashes url ∈ ["http:", "https:"] := by
  obtain ⟨scheme, hscheme, rest, hrest⟩ := isHttpUrl_iff.mp hurl
  have hall : ∀ c ∈ rest, c = '/' := by
    intro c hc
    by_contra hne
    exact h ⟨scheme, hscheme, rest, hrest, c, hc, hne⟩
  have htrim : (Client.trimSlashes url).toList = (Client.trimSlashes scheme).toList := by
    rw [Client.toList_trimSlashes, Client.toList_trimSlashes, hrest,
      rdropWhile_append_of_forall _ hall]
  rw [String.toList_inj.mp htrim]
  simp only [httpSchemes, List.mem_cons, List.not_mem_nil, or_false] at hscheme
  rcases hscheme with rfl | rfl <;> decide

end Url

namespace Config

/-- Settings that have been found to have no fault, whoever has asked for it. -/
inductive Accepted (c : Config) : Prop where
  | validated (h : c.validate = .ok ())
  | read {text : String} (h : ofText text = .ok c)
  | loaded {path : String} {content : Except String ByteArray} (h : ofFile path content = .ok c)
  | used {p : Provider} (h : Provider.ofConfig c = .ok p)

theorem validate_eq_ok_iff {c : Config} :
    c.validate = .ok () ↔ isHttpUrl c.engineUrl = true ∧ c.publicHost ≠ "" := by
  unfold validate fault?
  by_cases hurl : isHttpUrl c.engineUrl = true
  · by_cases hhost : c.publicHost = "" <;> simp [hurl, hhost]
  · simp [hurl]

theorem validate_of_map {α : Type} {c : Config} {f : Unit → α} {a : α}
    (h : c.validate.map f = .ok a) : c.validate = .ok () := by
  cases hc : c.validate with
  | error fault =>
      rw [hc] at h
      cases h
  | ok _ => rfl

theorem validate_of_ofText {text : String} {c : Config} (h : ofText text = .ok c) :
    c.validate = .ok () := by
  unfold ofText at h
  split at h
  · cases h
  · have hvalid := validate_of_map h
    rw [hvalid] at h
    cases h
    exact hvalid

theorem Accepted.validate {c : Config} (h : c.Accepted) : c.validate = .ok () := by
  cases h with
  | validated h => exact h
  | read h => exact validate_of_ofText h
  | @loaded path content h =>
      cases content with
      | error reason => cases h
      | ok bytes =>
          unfold ofFile at h
          dsimp only at h
          split at h
          · cases h
          · exact validate_of_ofText h
  | used h => exact validate_of_map h

/-- What becomes of the URL of the engine on the way to the client that is built from settings. -/
structure EngineUrl (c : Config) : Prop where
  trimmed : ∃ n, c.engineUrl.toList = c.engineBaseUrl.toList ++ List.replicate n '/'
  closed : c.engineBaseUrl.toList.getLast? ≠ some '/'
  client : c.client.baseUrl = c.engineBaseUrl
  provider : ∀ p, Provider.ofConfig c = .ok p → p.client.baseUrl = c.engineBaseUrl
  namesHost : NamesHost c.engineBaseUrl.toList ↔ NamesHost c.engineUrl.toList
  goesOn : GoesOn c.engineBaseUrl.toList ↔ GoesOn c.engineUrl.toList
  bare : ¬ GoesOn c.engineUrl.toList → c.engineBaseUrl ∈ ["http:", "https:"]

theorem baseUrl_client (c : Config) : c.client.baseUrl = c.engineBaseUrl :=
  Client.trimSlashes_trimSlashes c.engineUrl

/-- The URL of the engine in accepted settings can be used exactly if more than slashes follow its
scheme, the first of what follows being no slash. -/
theorem engineUrl_of_accepted {c : Config} (h : c.Accepted) : EngineUrl c where
  trimmed := Client.exists_toList_eq_trimSlashes_append c.engineUrl
  closed := Client.getLast?_trimSlashes c.engineUrl
  client := baseUrl_client c
  provider p hp := by
    rw [Provider.ofConfig, h.validate] at hp
    cases hp
    exact baseUrl_client c
  namesHost := namesHost_trimSlashes_iff
  goesOn := goesOn_trimSlashes_iff
  bare := trimSlashes_of_not_goesOn (validate_eq_ok_iff.mp h.validate).1

theorem engineUrl_of_accepted_internal :
    let c : Config := { engineUrl := "https://engine.internal:8443//" }
    c.Accepted ∧ EngineUrl c ∧ NamesHost c.engineBaseUrl.toList ∧
      c.client.baseUrl = "https://engine.internal:8443" := by
  intro c
  have haccepted : c.Accepted := .validated (validate_eq_ok_iff.mpr (by decide +kernel))
  have hurl := engineUrl_of_accepted haccepted
  have hnames : NamesHost c.engineUrl.toList :=
    ⟨"https://", by decide, "engine.internal:8443//".toList, by decide +kernel, 'e', by
      decide +kernel, by decide⟩
  refine ⟨haccepted, hurl, hurl.namesHost.mpr hnames, ?_⟩
  rw [hurl.client]
  decide +kernel

/-- A URL that is nothing but a scheme is accepted, and not even the scheme is left of it. -/
theorem accepted_without_host :
    let c : Config := { engineUrl := "http://" }
    ofText "engine_url = \"http://\"" = .ok c ∧ c.Accepted ∧ c.engineBaseUrl = "http:" ∧
      ¬ GoesOn c.engineBaseUrl.toList ∧ ¬ NamesHost c.engineBaseUrl.toList := by
  intro c
  have hread : ofText "engine_url = \"http://\"" = .ok c := by
    have hsome : (ofText "engine_url = \"http://\"").toOption = some c := by decide +kernel
    cases hc : ofText "engine_url = \"http://\"" with
    | error f =>
        rw [hc] at hsome
        cases hsome
    | ok d =>
        rw [hc] at hsome
        exact congrArg Except.ok (Option.some.inj hsome)
  have hbase : c.engineBaseUrl = "http:" := by decide +kernel
  have hshort : ∀ scheme ∈ httpSchemes, ∀ rest, c.engineBaseUrl.toList ≠ scheme.toList ++ rest := by
    intro scheme hscheme rest h
    have hlength := congrArg List.length h
    rw [hbase, List.length_append] at hlength
    simp only [httpSchemes, List.mem_cons, List.not_mem_nil, or_false] at hscheme
    rcases hscheme with rfl | rfl
    · exact absurd (Nat.le.intro hlength.symm) (by decide)
    · exact absurd (Nat.le.intro hlength.symm) (by decide)
  refine ⟨hread, .read hread, hbase, ?_, ?_⟩
  · rintro ⟨scheme, hscheme, rest, h, -⟩
    exact hshort scheme hscheme rest h
  · rintro ⟨scheme, hscheme, rest, h, -⟩
    exact hshort scheme hscheme rest h

end Config

end IntentProvider
