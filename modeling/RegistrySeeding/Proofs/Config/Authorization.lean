import RegistrySeeding.Proofs.Client.Postings
import RegistrySeeding.Proofs.Config.Settings

/-! From settings to the headers of requests. A token that is not blank goes with every request;
without one, only what the HTTP library makes of a login in the address of the registry does. -/
namespace RegistrySeeding.Config
open Text (Trims)

def Token (lookup : Lookup) (kept : List Char) : Prop :=
  ∃ token, lookup "CHAINREG_API_TOKEN" = some token ∧ ¬Text.Blank token ∧ Trims token.toList kept

def Control (c : Char) : Prop := c.toNat < 32 ∧ c ≠ '\t' ∨ c.toNat = 127

theorem headerCharIff (c : Char) : Client.headerChar c = true ↔ ¬Control c := by
  simp only [Client.headerChar, Control, Bool.or_eq_true, Bool.and_eq_true, decide_eq_true_eq]
  by_cases tab : c = '\t'
  · subst tab
    decide
  · simp only [tab, false_or, ne_eq, not_false_eq_true, and_true]
    omega

structure Unslashed (url base : String) : Prop where
  parts : ∃ slashes, url.toList = base.toList ++ slashes ∧ ∀ c ∈ slashes, c = '/'
  last : base.toList.getLast? ≠ some '/'

theorem dropSlashesUnslashed (url : String) : Unslashed url (Client.dropSlashes url) := by
  rw [Client.dropSlashes]
  refine ⟨⟨url.toList.rtakeWhile (· = '/'), ?_, fun c inside => ?_⟩, fun last => ?_⟩
  · rw [String.toList_ofList]
    exact List.rdropWhile_append_rtakeWhile.symm
  · simpa using List.mem_rtakeWhile_imp inside
  · rw [String.toList_ofList] at last
    obtain ⟨filled, same⟩ := List.mem_getLast?_eq_getLast last
    exact List.rdropWhile_last_not (· = '/') url.toList filled (decide_eq_true same.symm)

def tokenTrouble : Trouble :=
  ⟨"Failed to build registry client", some ("Invalid configuration value: " ++
    "Invalid access token format: failed to parse header value")⟩

variable {http : Http} {lookup : Lookup} {config : Config}

inductive Builds (http : Http) (lookup : Lookup) (config : Config) :
    Except Trouble Client → Prop where
  | anonymous (absent : ∀ kept, ¬Token lookup kept) :
      Builds http lookup config (.ok ⟨Client.dropSlashes config.registryUrl, none,
        { timeoutMs := config.timeoutMs }, http⟩)
  | bearer {kept : List Char} (token : Token lookup kept) (plain : ∀ c ∈ kept, ¬Control c) :
      Builds http lookup config (.ok ⟨Client.dropSlashes config.registryUrl,
        some ("Bearer " ++ String.ofList kept), { timeoutMs := config.timeoutMs }, http⟩)
  | refused {kept : List Char} {c : Char} (token : Token lookup kept) (inside : c ∈ kept)
      (control : Control c) : Builds http lookup config (.error tokenTrouble)

theorem authorizationOfToken {t : String} (filled : ¬Text.Blank t) :
    Client.authorizationOf (some t) = if (Text.trim t).toList.all Client.headerChar then
      .ok (some ("Bearer " ++ Text.trim t)) else .error Client.tokenRefused := by
  have shown : (some t).bind Text.nonBlank = some t := Text.shownIff.mpr ⟨filled, rfl⟩
  rw [Client.authorizationOf, shown]

theorem clientBuilt (http : Http) (accepted : Accepted lookup config) :
    Builds http lookup config (config.client http) := by
  have given := accepted.token
  unfold client Client.build
  cases token : config.apiToken with
  | none =>
    refine .anonymous ?_
    rintro kept ⟨t, found, filled, -⟩
    rw [(given t).mpr ⟨found, filled⟩] at token
    contradiction
  | some t =>
    obtain ⟨found, filled⟩ := (given t).mp token
    have trimmed : Token lookup (Text.trim t).toList := ⟨t, found, filled, Text.trimTrims t⟩
    rw [authorizationOfToken filled]
    by_cases plain : (Text.trim t).toList.all Client.headerChar = true
    · rw [if_pos plain]
      have allowed (c : Char) (inside : c ∈ (Text.trim t).toList) : ¬Control c :=
        (headerCharIff c).mp (List.all_eq_true.mp plain c inside)
      rw [← String.ofList_toList (s := Text.trim t)]
      exact .bearer trimmed allowed
    · rw [if_neg plain]
      obtain ⟨c, inside, other⟩ : ∃ c ∈ (Text.trim t).toList, ¬Client.headerChar c = true := by
        simpa using plain
      exact .refused trimmed inside (by simpa [headerCharIff] using other)

theorem tokenUnique {kept other : List Char} (token : Token lookup kept)
    (again : Token lookup other) : kept = other := by
  obtain ⟨t, given, filled, trims⟩ := token
  obtain ⟨u, found, _, same⟩ := again
  obtain rfl : t = u := Option.some.inj (given.symm.trans found)
  rw [Text.trimsUnique trims filled, Text.trimsUnique same filled]

theorem refusedIff {result : Except Trouble Client} (built : Builds http lookup config result) :
    (∃ e, result = .error e) ↔ ∃ kept, Token lookup kept ∧ ∃ c ∈ kept, Control c := by
  cases built with
  | anonymous absent =>
    exact ⟨nofun, fun ⟨kept, token, _⟩ => absurd token (absent kept)⟩
  | bearer token plain =>
    refine ⟨nofun, ?_⟩
    rintro ⟨other, again, c, inside, control⟩
    rw [← tokenUnique token again] at inside
    exact absurd control (plain c inside)
  | refused token inside control =>
    exact ⟨fun _ => ⟨_, token, _, inside, control⟩, fun _ => ⟨_, rfl⟩⟩

structure Authorized (lookup : Lookup) (address : Url) (request : Request) : Prop where
  bearer : ∀ kept, Token lookup kept →
    request.authorization = some ("Bearer " ++ String.ofList kept)
  login : (∀ kept, ¬Token lookup kept) →
    request.authorization = address.login?.map Url.authorization
  given : request.authorization ≠ none ↔ (∃ kept, Token lookup kept) ∨ address.login? ≠ none

theorem preparedAuthorization (documented : http.Documented) (address : Url) :
    (http.prepare address).2 = address.login?.map Url.authorization := by
  cases login : address.login? with
  | none => rw [documented.plain address login, Option.map_none]
  | some login => rw [documented.login address _ login, Option.map_some]

theorem destinationAuthorization {client : Client} (documented : client.http.Documented)
    {method : String} {url : Url} {authorization : Option String}
    (place : client.destination method = .ok (url, authorization)) :
    ∃ address, Url.parse (client.methodUrl method) = some address ∧
      authorization = client.authorization.or (address.login?.map Url.authorization) := by
  unfold Client.destination at place
  cases parsed : Url.parse (client.methodUrl method) with
  | none =>
    rw [parsed] at place
    contradiction
  | some address =>
    rw [parsed] at place
    dsimp only at place
    refine ⟨address, rfl, ?_⟩
    rw [← preparedAuthorization documented]
    split at place
    · cases Except.ok.inj place
      rfl
    · cases place

theorem postedAuthorized {client : Client} (documented : http.Documented)
    (built : Builds http lookup config (.ok client)) {method : String} {body : Json} {request : Request}
    (posted : request ∈ client.posting method body) :
    ∃ address, Url.parse (client.methodUrl method) = some address ∧
      Authorized lookup address request := by
  obtain ⟨url, authorization, place, rfl⟩ := Client.postingMember posted
  have same : client.http = http := by cases built <;> rfl
  obtain ⟨address, parsed, rfl⟩ := destinationAuthorization (same ▸ documented) place
  refine ⟨address, parsed, ?_⟩
  cases built with
  | anonymous absent =>
    refine ⟨fun kept token => absurd token (absent kept), fun _ => rfl, ?_⟩
    simp [absent]
  | @bearer kept token plain =>
    refine ⟨fun other again => ?_, fun absent => absurd token (absent kept), ?_⟩
    · rw [tokenUnique token again]
      rfl
    · simpa using .inl ⟨kept, token⟩

def Sent (lookup : Lookup) (client : Client) (method : String) (request : Request) : Prop :=
  ∃ address, Url.parse (client.baseUrl ++ "/" ++ "registry.v1.RegistryService" ++ "/" ++ method) =
    some address ∧ Authorized lookup address request

theorem acceptedIff (lookup : Lookup) : (∃ config, ofLookup lookup = .ok config) ↔
    Hypertext (urlText lookup) ∧ (∃ n, Counts (timeoutText lookup) n) ∧
      (∃ f : LogFormat, Spells f.name (logText lookup)) ∧
      ∃ f : SummaryFormat, Spells f.name (summaryText lookup) := by
  constructor
  · rintro ⟨config, came⟩
    have accepted := (ofLookupIff config).mp came
    exact ⟨accepted.hypertext, ⟨_, accepted.timeout⟩, ⟨_, accepted.log⟩, _, accepted.summary⟩
  · rintro ⟨hypertext, ⟨n, timeout⟩, ⟨log, spelled⟩, summary, shaped⟩
    exact ⟨⟨urlText lookup, (lookup "CHAINREG_API_TOKEN").bind Text.nonBlank, _, n, log, summary⟩,
      (ofLookupIff _).mpr ⟨rfl, hypertext, tokenKept, rfl, timeout, spelled, shaped⟩⟩

/-- What comes of the settings: a client, or one of two kinds of trouble. -/
theorem settingsAuthorize (http : Http) (documented : http.Documented) (lookup : Lookup) :
    ((∃ config, ofLookup lookup = .ok config) ↔ Hypertext (urlText lookup) ∧
      (∃ n, Counts (timeoutText lookup) n) ∧ (∃ f : LogFormat, Spells f.name (logText lookup)) ∧
      ∃ f : SummaryFormat, Spells f.name (summaryText lookup)) ∧
    (∀ e, ofLookup lookup = .error e → ∃ name, Offends lookup name ∧ Names name e) ∧
    ∀ config, ofLookup lookup = .ok config → Accepted lookup config ∧
      ((∃ e, config.client http = .error e) ↔
        ∃ kept, Token lookup kept ∧ ∃ c ∈ kept, Control c) ∧
      (∀ e, config.client http = .error e → e = tokenTrouble) ∧
      ∀ client, config.client http = .ok client → Unslashed config.registryUrl client.baseUrl ∧
        client.settings.timeoutMs = config.timeoutMs ∧
        ∀ {σ : Type} (transport : Transport σ) (world : σ),
          (∀ s, ∀ request ∈ (client.submit transport.kept s (world, [])).world.2,
            Sent lookup client (Client.methodOf s.stage).1 request) ∧
          ∀ request ∈ (client.list transport.kept (world, [])).world.2,
            Sent lookup client "ListAssets" request := by
  refine ⟨acceptedIff lookup, fun e failed => ofLookupError failed, fun config came => ?_⟩
  have accepted := (ofLookupIff config).mp came
  have built := clientBuilt http accepted
  refine ⟨accepted, refusedIff built, fun e failed => ?_, fun client ready => ?_⟩
  · rw [failed] at built
    cases built
    rfl
  · rw [ready] at built
    have made : client.baseUrl = Client.dropSlashes config.registryUrl ∧
        client.settings.timeoutMs = config.timeoutMs := by
      cases built <;> exact ⟨rfl, rfl⟩
    refine ⟨by rw [made.1]; exact dropSlashesUnslashed _, made.2, fun transport world =>
      ⟨fun s request inside => ?_, fun request inside => ?_⟩⟩
    · rw [Client.submitPosts, List.nil_append] at inside
      exact postedAuthorized documented built inside
    · obtain ⟨token, posted⟩ := client.listPosts transport world request inside
      exact postedAuthorized documented built posted

def oddLookup (token : String) : Lookup := fun name =>
  [("CHAINREG_REGISTRY_URL", "http://[::1]:8080//"), ("CHAINREG_API_TOKEN", token),
    ("CHAINREG_REQUEST_TIMEOUT_MS", "+007"), ("CHAINREG_LOG_FORMAT", "JSON"),
    ("CHAINREG_SUMMARY_FORMAT", "Table")].lookup name

theorem oddSettingsAuthorize :
    (∃ config client, ofLookup (oddLookup "\u3000t\t1 ") = .ok config ∧ config.timeoutMs = 7 ∧
      config.client .basic = .ok client ∧ client.baseUrl = "http://[::1]:8080" ∧
      (client.list Transport.silent.kept ((), [])).world.2.map (·.authorization) =
        [some "Bearer t\t1"] ∧
      ∀ request ∈ (client.list Transport.silent.kept ((), [])).world.2,
        Sent (oddLookup "\u3000t\t1 ") client "ListAssets" request) ∧
    ∃ config, ofLookup (oddLookup "a\nb") = .ok config ∧
      ∃ e, config.client .basic = .error e := by
  let odd (token : String) : Config :=
    ⟨"http://[::1]:8080//", some token, "./data", 7, .json, .table⟩
  have came : ofLookup (oddLookup "\u3000t\t1 ") = .ok (odd "\u3000t\t1 ") := by decide +kernel
  have broken : ofLookup (oddLookup "a\nb") = .ok (odd "a\nb") := by decide +kernel
  have token : Client.authorizationOf (some "\u3000t\t1 ") = .ok (some "Bearer t\t1") := by
    decide +kernel
  have base : Client.dropSlashes "http://[::1]:8080//" = "http://[::1]:8080" := by decide +kernel
  have ready : (odd "\u3000t\t1 ").client .basic =
      .ok ⟨"http://[::1]:8080", some "Bearer t\t1", { timeoutMs := 7 }, .basic⟩ := by
    simp only [client, Client.build, odd, token, base]
  obtain ⟨-, -, -, sent⟩ :=
    (settingsAuthorize .basic Http.basicDocumented (oddLookup "\u3000t\t1 ")).2.2 _ came
  obtain ⟨-, fails, -⟩ :=
    (settingsAuthorize .basic Http.basicDocumented (oddLookup "a\nb")).2.2 _ broken
  have token : Token (oddLookup "a\nb") (Text.trim "a\nb").toList :=
    ⟨"a\nb", rfl, by rw [← Text.blankIff]; decide, Text.trimTrims _⟩
  refine ⟨⟨_, _, came, rfl, ready, rfl, by decide +kernel, ?_⟩, _, broken, ?_⟩
  · exact ((sent _ ready).2.2 Transport.silent ()).2
  · exact fails.mpr ⟨_, token, '\n', by decide +kernel, .inl ⟨by decide, by decide⟩⟩

def loginLookup : Lookup := fun name =>
  if name = "CHAINREG_REGISTRY_URL" then some "http://u:p@[::1]:8080" else none

theorem loginAuthorizes :
    ∃ config client, ofLookup loginLookup = .ok config ∧ config.client .basic = .ok client ∧
      loginLookup "CHAINREG_API_TOKEN" = none ∧
      (client.list Transport.silent.kept ((), [])).world.2.map (·.authorization) =
        [some "Basic dTpw"] ∧
      ¬∀ request ∈ (client.list Transport.silent.kept ((), [])).world.2,
        (request.authorization ≠ none ↔
          ∃ token, loginLookup "CHAINREG_API_TOKEN" = some token ∧ ¬Text.Blank token) := by
  have came : ofLookup loginLookup =
      .ok ⟨"http://u:p@[::1]:8080", none, "./data", 30000, .text, .table⟩ := by decide +kernel
  refine ⟨_, ⟨"http://u:p@[::1]:8080", none, {}, .basic⟩, came, rfl, rfl, ?_⟩
  have posted : (Client.list ⟨"http://u:p@[::1]:8080", none, {}, .basic⟩ Transport.silent.kept
      ((), [])).world.2.map (·.authorization) = [some "Basic dTpw"] := by decide +kernel
  refine ⟨posted, fun claimed => ?_⟩
  obtain ⟨request, single, basic⟩ := List.map_eq_singleton_iff.mp posted
  have authorized : request.authorization ≠ none := by
    rw [basic]
    nofun
  obtain ⟨token, given, -⟩ := (claimed request (by rw [single]; exact List.mem_cons_self)).mp
    authorized
  cases given

end RegistrySeeding.Config
