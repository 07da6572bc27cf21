import Parley.Endpoint.Config
import Parley.Proofs.Endpoint.Address
import Parley.Proofs.Record.Passing

/-!
# Accepted settings

Settings that pass the check hold what the check made of their members: a model that is not
empty, and the normal form of the address.  So an address that is surrounded by blanks and
ends in slashes comes out as its scheme and its host, and requests go to the path of the chat
behind them; an address with a scheme that the client does not speak is refused as it is.
-/

namespace Parley

/-! ## Checks that passed -/

namespace Checked

end Checked

/-! ## Addresses of settings -/

namespace Config

variable {found : List (String × Json)} {name other : String}

theorem member?_insertMember_of_ne (hname : other ≠ name) (value : Json) :
    Json.member? name (Json.insertMember other value found) = Json.member? name found := by
  induction found with
  | nil => exact if_neg hname
  | cons member rest ih =>
      rw [Json.insertMember]
      by_cases hmember : member.1 = other
      · have hne : member.1 ≠ name := hmember.symm ▸ hname
        rw [if_pos hmember, Json.member?, Json.member?, if_neg hname, if_neg hne]
      · rw [if_neg hmember, Json.member?, Json.member?, ih]

theorem member?_withKey (now : Int) (hname : "session_key" ≠ name) :
    Json.member? name (withKey now found) = Json.member? name found := by
  rw [withKey]
  split
  · exact member?_insertMember_of_ne hname _
  · rfl

theorem checkUrl_of_normalize {address url : String} (hurl : Address.normalize address = .ok url) :
    checkUrl (.string address) = .ok url := by
  simp only [checkUrl, Checked.text, hurl]

theorem checkUrl_of_refused {address : String} {error : AddressError}
    (herror : Address.normalize address = .error error) :
    checkUrl (.string address) = Checked.fail (.refused error.message) := by
  simp only [checkUrl, Checked.text, herror]

theorem baseUrl_of_check {now : Int} {config : Config} {address url : String}
    (hcheck : check now (.object found) = .ok config)
    (haddress : Json.member? "base_url" found = some (.string address))
    (hurl : Address.normalize address = .ok url) : config.baseUrl = url := by
  obtain ⟨base, rest, hbase, -, rfl⟩ := Checked.both_eq_ok hcheck
  have hmember := Checked.under_eq_ok hbase
  rw [member?_withKey now (by decide), haddress] at hmember
  exact Except.ok.inj (hmember.symm.trans (checkUrl_of_normalize hurl))

/-- The address of settings plays no part in the check of the others. -/
theorem check_cons {address url : String} (hfound : Json.member? "base_url" found = none)
    (hurl : Address.normalize address = .ok url) (now : Int) :
    check now (.object (("base_url", .string address) :: found)) =
      (check now (.object found)).map fun config => { config with baseUrl := url } := by
  have hmember (rest : List (String × Json)) {name : String} (hname : "base_url" ≠ name) :
      Json.member? name (("base_url", .string address) :: rest) = Json.member? name rest :=
    if_neg hname
  have hcons : withKey now (("base_url", .string address) :: found) =
      ("base_url", .string address) :: withKey now found := by
    have hmodel : keyModel (("base_url", .string address) :: found) = keyModel found := by
      rw [keyModel, hmember found (by decide)]
      rfl
    rw [withKey, withKey, hmember found (by decide), hmodel]
    split
    · exact if_neg (show "base_url" ≠ "session_key" by decide)
    · rfl
  have hoptional {α : Type} (default : α) (check : Json → Checked α)
      (rest : List (String × Json)) {name : String} (hname : "base_url" ≠ name) :
      Checked.optional name default check (("base_url", .string address) :: rest) =
        Checked.optional name default check rest := by
    rw [Checked.optional, hmember rest hname]
    rfl
  have hgiven : Checked.optional "base_url" defaultServer checkUrl
      (("base_url", .string address) :: withKey now found) = .ok url :=
    congrArg (Checked.under _) (checkUrl_of_normalize hurl)
  have hdefault : Checked.optional "base_url" defaultServer checkUrl (withKey now found) =
      .ok defaultServer := by
    rw [Checked.optional, member?_withKey now (by decide), hfound]
    rfl
  change ofMembers (withKey now _) = (ofMembers (withKey now found)).map _
  rw [hcons, ofMembers, ofMembers, hgiven, hdefault, hoptional _ _ _ (by decide),
    hoptional _ _ _ (by decide), hoptional _ _ _ (by decide)]
  generalize Checked.both Prod.mk
    (Checked.optional "session_key" "" Checked.text (withKey now found)) _ = others
  cases others with
  | error problems => rfl
  | ok rest => rfl

end Config

/-! ## Addresses with their surroundings -/

namespace Address

open Text (isBlank)

/-- A host part without blanks at its ends and without slashes at its end. -/
structure IsPlainHost (host : List Char) : Prop where
  ne_nil : host ≠ []
  trimmed : Text.IsTrimmed host
  noSlash : host.getLast? ≠ some '/'

theorem isAlpha_of_isAlpha_toLower {c : Char} (hc : c.toLower.isAlpha = true) :
    c.isAlpha = true := by
  by_cases hupper : c.isUpper = true
  · exact Bool.or_eq_true_iff.mpr (Or.inl hupper)
  · have hsame : c.toLower = c := dif_neg fun hletter => hupper (decide_eq_true hletter)
    rwa [hsame] at hc

theorem isScheme_of_isSupported {scheme : List Char} (h : isSupported scheme = true) :
    IsScheme scheme := by
  rw [isSupported, Bool.or_eq_true, beq_iff_eq, beq_iff_eq] at h
  have hletters : ∀ c ∈ scheme, c.isAlpha = true := by
    intro c hc
    have hlower : c.toLower ∈ scheme.map Char.toLower := List.mem_map_of_mem hc
    apply isAlpha_of_isAlpha_toLower
    obtain hhttp | hhttps := h
    · have hall : "http".toList.all Char.isAlpha = true := rfl
      exact List.all_eq_true.mp hall _ (hhttp ▸ hlower)
    · have hall : "https".toList.all Char.isAlpha = true := rfl
      exact List.all_eq_true.mp hall _ (hhttps ▸ hlower)
  cases scheme with
  | nil => exact absurd h (by decide)
  | cons first rest =>
      obtain ⟨hfirst, hrest⟩ := List.forall_mem_cons.mp hletters
      exact ⟨first, rest, rfl, hfirst, fun c hc => isSchemeChar_of_isAlpha (hrest c hc)⟩

section Host

variable {host : List Char} (hhost : IsPlainHost host) (k : Nat)
include hhost

theorem dropSlashes_append_replicate :
    dropSlashes (host ++ List.replicate k '/') = host := by
  have hslashes : ∀ c ∈ List.replicate k '/', (c == '/') = true := by simp
  rw [dropSlashes, Text.dropTailWhile_append_of_forall _ hslashes, Text.dropTailWhile_eq_self_iff]
  intro c hc
  apply beq_false_of_ne
  rintro rfl
  exact hhost.noSlash hc

theorem isTrimmed_append_replicate : Text.IsTrimmed (host ++ List.replicate k '/') where
  head := by
    rw [List.head?_append_of_ne_nil _ hhost.ne_nil]
    exact hhost.trimmed.head
  last := by
    rw [List.getLast?_append]
    intro c hc
    obtain hslash | ⟨-, hc⟩ := Option.or_eq_some_iff.mp hc
    · rw [List.eq_of_mem_replicate (List.mem_of_getLast? hslash)]
      rfl
    · exact hhost.trimmed.last c hc

end Host

/-- Whether a text starts with a scheme and its mark. -/
def HasScheme (s : List Char) : Prop :=
  ∃ name, IsScheme name ∧ name ++ schemeMark <+: s

theorem scheme?_eq_none_iff {s : List Char} : scheme? s = none ↔ ¬HasScheme s := by
  simp only [Option.eq_none_iff_forall_ne_some, Ne, scheme?_eq_some_iff, HasScheme, not_exists]

section Surrounded

variable {host before after : List Char} (hhost : IsPlainHost host)
  (hbefore : ∀ c ∈ before, isBlank c = true) (hafter : ∀ c ∈ after, isBlank c = true) (k : Nat)
include hhost hbefore hafter

theorem normalizeChars_bare (hscheme : ¬HasScheme (host ++ List.replicate k '/')) :
    normalizeChars (before ++ (host ++ List.replicate k '/') ++ after) =
      .ok (defaultScheme ++ schemeMark ++ host) := by
  have hstrip := Text.strip_surrounded (isTrimmed_append_replicate hhost k)
    (List.append_ne_nil_of_left_ne_nil hhost.ne_nil _) hbefore hafter
  rw [normalizeChars_of_none (by rw [hstrip]; exact scheme?_eq_none_iff.mpr hscheme), hstrip,
    finish_append_eq_ok_iff isScheme_defaultScheme, dropSlashes_append_replicate hhost]
  exact ⟨hhost.ne_nil, rfl⟩

theorem normalizeChars_schemed {scheme : List Char} (hscheme : IsScheme scheme) :
    normalizeChars
        (before ++ (scheme ++ schemeMark ++ (host ++ List.replicate k '/')) ++ after) =
      if isSupported scheme then .ok (scheme ++ schemeMark ++ host)
      else .error (.unsupportedScheme (String.ofList scheme)) := by
  have htrimmed := isTrimmed_append_replicate hhost k
  have hne : host ++ List.replicate k '/' ≠ [] :=
    List.append_ne_nil_of_left_ne_nil hhost.ne_nil _
  have hwhole : Text.IsTrimmed (scheme ++ schemeMark ++ (host ++ List.replicate k '/')) := by
    obtain ⟨first, rest, rfl, hfirst, -⟩ := hscheme
    refine ⟨?_, by rw [List.getLast?_append_of_ne_nil _ hne]; exact htrimmed.last⟩
    intro c hc
    cases hc
    exact isBlank_of_isAlpha hfirst
  have hstrip := Text.strip_surrounded hwhole (List.append_ne_nil_of_right_ne_nil _ hne)
    hbefore hafter
  have hname : scheme? (Text.strip
      (before ++ (scheme ++ schemeMark ++ (host ++ List.replicate k '/')) ++ after)) =
        some scheme := by
    rw [hstrip, scheme?_append hscheme]
  have hfinish : finish (scheme ++ schemeMark ++ (host ++ List.replicate k '/')) =
      .ok (scheme ++ schemeMark ++ host) := by
    rw [finish_append_eq_ok_iff hscheme, dropSlashes_append_replicate hhost]
    exact ⟨hhost.ne_nil, rfl⟩
  rw [normalizeChars_of_some hname, hstrip, hfinish]

end Surrounded

end Address

/-- Whether an address is one of a server: it is accepted, all settings that pass the check with
it send their requests there, and the check passes exactly if it does without the address, so
also for the address alone. -/
structure Config.Reaches (address url : String) : Prop where
  normalize : Address.normalize address = .ok url
  completionsUrl : ∀ {now : Int} {found : List (String × Json)} {config : Config},
    Json.member? "base_url" found = some (.string address) →
      Config.check now (.object found) = .ok config →
        config.completionsUrl = url ++ "/v1/chat/completions"
  check : ∀ {found : List (String × Json)}, Json.member? "base_url" found = none → ∀ now,
    Config.check now (.object (("base_url", .string address) :: found)) =
      (Config.check now (.object found)).map fun config => { config with baseUrl := url }
  alone : ∀ now, ∃ config, Config.check now (.object [("base_url", .string address)]) = .ok config

theorem Config.reaches_of_normalize {address url : String}
    (hurl : Address.normalize address = .ok url) : Config.Reaches address url where
  normalize := hurl
  completionsUrl haddress hcheck := by
    rw [Config.completionsUrl, baseUrl_of_check hcheck haddress hurl]
  check hfound now := check_cons hfound hurl now
  alone now := ⟨_, (check_cons rfl hurl now).trans rfl⟩

/-- What surrounds a host part and what becomes of it: blanks around the address and slashes at
its end go, a missing scheme is supplied, a scheme that the client speaks stays as it is
written, and any other is refused, so none is put before it. -/
theorem Address.normalize_surrounded {host before after : String}
    (hhost : IsPlainHost host.toList) (hbefore : ∀ c ∈ before.toList, Text.isBlank c = true)
    (hafter : ∀ c ∈ after.toList, Text.isBlank c = true) (k : Nat) :
    let tail := host ++ Text.replicateText k '/'
    (¬HasScheme tail.toList → Config.Reaches (before ++ tail ++ after) ("http://" ++ host)) ∧
    (∀ scheme : String, isSupported scheme.toList = true →
      Config.Reaches (before ++ (scheme ++ "://" ++ tail) ++ after)
        (scheme ++ "://" ++ host)) ∧
    (∀ scheme : String, IsScheme scheme.toList → isSupported scheme.toList = false →
      normalize (before ++ (scheme ++ "://" ++ tail) ++ after) =
        .error (.unsupportedScheme scheme)) := by
  intro tail
  have htail : tail.toList = host.toList ++ List.replicate k '/' := by
    rw [String.toList_append, Text.replicateText, String.toList_ofList]
  have hmark : "://".toList = schemeMark := rfl
  have hschemed (scheme : String) (hscheme : IsScheme scheme.toList) :=
    normalizeChars_schemed hhost hbefore hafter k hscheme
  refine ⟨?_, ?_, ?_⟩
  · intro hbare
    apply Config.reaches_of_normalize
    rw [htail] at hbare
    rw [normalize_eq_ok_iff, String.toList_append, String.toList_append, htail,
      normalizeChars_bare hhost hbefore hafter k hbare, String.toList_append]
    rfl
  · intro scheme hsupported
    apply Config.reaches_of_normalize
    simp only [normalize_eq_ok_iff, String.toList_append, htail, hmark]
    rw [hschemed scheme (isScheme_of_isSupported hsupported), if_pos hsupported]
  · intro scheme hscheme hforeign
    simp only [normalize, String.toList_append, htail, hmark]
    rw [hschemed scheme hscheme, if_neg (ne_true_of_eq_false hforeign), String.ofList_toList]
    rfl

theorem Address.normalize_surrounded_markInside :
    IsPlainHost "a b://c".toList ∧ (∀ c ∈ " \t".toList, Text.isBlank c = true) ∧
      (∀ c ∈ "\n".toList, Text.isBlank c = true) ∧ ¬HasScheme "a b://c//".toList ∧
      Config.Reaches " \ta b://c//\n" "http://a b://c" ∧
      isSupported "hTTps".toList = true ∧
      Config.Reaches " \thTTps://a b://c//\n" "hTTps://a b://c" ∧
      IsScheme "git+ssh".toList ∧ isSupported "git+ssh".toList = false ∧
      normalize " \tgit+ssh://a b://c//\n" = .error (.unsupportedScheme "git+ssh") := by
  have hhost : IsPlainHost "a b://c".toList :=
    ⟨by decide, ⟨by rintro c ⟨⟩; rfl, by rintro c ⟨⟩; rfl⟩, by decide⟩
  have hbefore : ∀ c ∈ " \t".toList, Text.isBlank c = true := List.all_eq_true.mp rfl
  have hafter : ∀ c ∈ "\n".toList, Text.isBlank c = true := List.all_eq_true.mp rfl
  have hbare : ¬HasScheme "a b://c//".toList := scheme?_eq_none_iff.mp (by decide +kernel)
  have hsupported : isSupported "hTTps".toList = true := by decide
  have hscheme : IsScheme "git+ssh".toList := ⟨'g', "it+ssh".toList, rfl, rfl, List.all_eq_true.mp rfl⟩
  have hforeign : isSupported "git+ssh".toList = false := by decide
  obtain ⟨hnone, hsome, hother⟩ := normalize_surrounded hhost hbefore hafter 2
  exact ⟨hhost, hbefore, hafter, hbare, hnone hbare, hsupported, hsome "hTTps" hsupported,
    hscheme, hforeign, hother "git+ssh" hscheme hforeign⟩

end Parley
