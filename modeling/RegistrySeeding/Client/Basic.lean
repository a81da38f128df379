import RegistrySeeding.Client.Answers
import RegistrySeeding.Client.Transport
import RegistrySeeding.Registry.Basic

/-! The registry behind its address. Every registry method is one call; only a record that
already exists is a conflict, and what the transport loses is a failure of that record. The
listing is gathered page by page, up to a limit. -/
namespace RegistrySeeding

def defaultRegistryUrl : String := "http://localhost:8080"

def serviceName : String := "registry.v1.RegistryService"

structure Client.Settings where
  timeoutMs : Nat := 30000
  pageSize : UInt32 := 500
  maxPages : Nat := 1000
  deriving DecidableEq, Repr

structure Client where
  baseUrl : String
  authorization : Option String
  settings : Client.Settings
  http : Http

namespace Client

def headerChar (c : Char) : Bool := c = '\t' || (32 ≤ c.toNat && c.toNat ≠ 127)

def tokenRefused : Error :=
  .invalidConfigValue "Invalid access token format: failed to parse header value"

def authorizationOf (token : Option String) : Except Error (Option String) :=
  match token.bind Text.nonBlank with
  | none => .ok none
  | some token =>
    let token := Text.trim token
    if token.toList.all headerChar then .ok (some ("Bearer " ++ token)) else .error tokenRefused

def dropSlashes (s : String) : String :=
  String.ofList (s.toList.reverse.dropWhile (· = '/')).reverse

def build (http : Http) (baseUrl : String) (token : Option String) (settings : Settings) :
    Except Error Client :=
  match authorizationOf token with
  | .ok authorization => .ok ⟨dropSlashes baseUrl, authorization, settings, http⟩
  | .error e => .error e

def methodUrl (client : Client) (method : String) : String :=
  client.baseUrl ++ "/" ++ serviceName ++ "/" ++ method

def methodOf : Stage → String × String
  | .chains => ("CreateChain", "chain")
  | .assets => ("CreateAsset", "asset")
  | .deployments => ("CreateAssetDeployment", "deployment")

inductive Received where
  | response (status : Nat) (body : String)
  | failed (failure : Failure)
  | interrupted
  deriving DecidableEq, Repr

def Loss.failure (url : Url) : Loss → Failure
  | .unanswered => ⟨.unavailable, "error sending request for url (" ++ url.text ++ ")"⟩
  | .unansweredInTime => ⟨.deadlineExceeded, "error sending request for url (" ++ url.text ++ ")"⟩
  | .bodyCut => ⟨.unavailable, "error decoding response body"⟩
  | .bodyNotInTime => ⟨.deadlineExceeded, "error decoding response body"⟩

/-- Where a call goes and its authorization, or why it goes nowhere. A token takes the place of
what the address names. -/
def destination (client : Client) (method : String) : Except Failure (Url × Option String) :=
  match Url.parse (client.methodUrl method) with
  | none => .error ⟨.unavailable, "builder error"⟩
  | some address =>
    let (url, own) := client.http.prepare address
    if url.reachable then .ok (url, client.authorization.or own)
    else .error ⟨.unavailable, "builder error for url (" ++ url.text ++ ")"⟩

def Received.ofDelivery (url : Url) : Delivery → Received
  | .response status body => .response status body
  | .lost loss => .failed (Loss.failure url loss)
  | .interrupted => .interrupted

variable {σ : Type}

def call (client : Client) (transport : Transport σ) (method : String) (body : Json) (world : σ) :
    Received × σ :=
  match client.destination method with
  | .error failure => (.failed failure, world)
  | .ok (url, authorization) =>
    let request := ⟨url, authorization, body.text, client.settings.timeoutMs⟩
    let (delivery, world) := transport.send request world
    (.ofDelivery url delivery, world)

def callLine (client : Client) (method : String) : Line :=
  ⟨.debug, "[RegistryApi] POST " ++ client.methodUrl method, []⟩

def judge (recordName : String) : Received → Reply Answer × List Line
  | .interrupted => (.abandoned, [])
  | .failed failure => (.answered (.ok (.failed failure)) false, [])
  | .response status body =>
    if succeeded status then
      let (id, warnings) := createdId recordName body
      (.answered (.ok (Answer.ofCreated id)) false, warnings)
    else
      let (code, message) := errorStatus status body
      (.answered (Answer.ofStatus code message) false, [])

def submit (client : Client) (transport : Transport σ) (s : Submission) (world : σ) :
    Exchange σ Answer :=
  let (method, recordName) := methodOf s.stage
  let (received, world) := client.call transport method s.json world
  let (reply, warnings) := judge recordName received
  { reply, lines := client.callLine method :: warnings, world }

def listFailure (received : Nat × String) : Error :=
  let (code, message) := errorStatus received.1 received.2
  if code = .canceled then .cancelled else .registry (code.name ++ ": " ++ message)

def readPage (status : Nat) (body : String) : Except Error Page :=
  if succeeded status then
    match Page.record.codec.decode body with
    | .ok page => .ok page
    | .error fault => .error (.registry ("Failed to parse ListAssets response: " ++ fault.message))
  else .error (listFailure (status, body))

def tooManyPages (client : Client) : Error :=
  .registry
    ("ListAssets exceeded max pages (" ++ toString client.settings.maxPages ++ "). Aborting.")

def stuck : Error :=
  .registry "ListAssets pagination appears stuck (same page token returned twice)."

def pageLine (number size : Nat) : Line :=
  ⟨.debug, "[RegistryApi] ListAssets page " ++ toString number ++ " returned " ++ toString size
    ++ " assets", []⟩

def listedLine (size : Nat) : Line :=
  ⟨.info, "[RegistryApi] Listed " ++ toString size ++ " registry assets", []⟩

/-- The pages from a token on. `left` more may be asked for, `number` were read, and `listed`
holds what they listed. -/
def pages (client : Client) (transport : Transport σ) :
    Nat → Nat → String → List RegisteredAsset → σ → Exchange σ (List RegisteredAsset)
  | 0, _, _, _, world => .plain (.error client.tooManyPages) world
  | left + 1, number, token, listed, world =>
    let request := PageRequest.mk client.settings.pageSize token
    let (received, world) := client.call transport "ListAssets" request.json world
    let line := client.callLine "ListAssets"
    match received with
    | .interrupted => { reply := .abandoned, lines := [line], world }
    | .failed failure =>
      { reply := .answered (.error (.registry failure.text)) false, lines := [line], world }
    | .response status body =>
      match readPage status body with
      | .error e => { reply := .answered (.error e) false, lines := [line], world }
      | .ok page =>
        let listed := listed ++ page.assets.map ListedAsset.registered
        let lines := [line, pageLine (number + 1) page.assets.length]
        if page.nextPageToken.isEmpty then
          let lines := lines ++ [listedLine listed.length]
          { reply := .answered (.ok listed) false, lines, world }
        else if page.nextPageToken = token then
          { reply := .answered (.error stuck) false, lines, world }
        else
          let rest := pages client transport left (number + 1) page.nextPageToken listed world
          { rest with lines := lines ++ rest.lines }

def list (client : Client) (transport : Transport σ) (world : σ) :
    Exchange σ (List RegisteredAsset) :=
  client.pages transport client.settings.maxPages 0 "" [] world

def registry (client : Client) (transport : Transport σ) : Registry σ where
  submit := client.submit transport
  list := client.list transport

end Client
end RegistrySeeding
