import Gr4ControlPlane.Core.Json
import Gr4ControlPlane.L6Cli.ServerUrl

/-!
# Commands of the CLI (`cli/cli.cpp`)

A run reads its options, makes a client of the URL among them and sends one
request. The HTTP library, the JSON library and the files are a `World`. The
URL is looked at before anything else is done with the command, so a run
whose URL is rejected sends nothing.

* `run_requests`: whatever is sent goes to the host and the port that
  `parse_url` made of the URL.
* `run_rejected`: a run whose URL is rejected prints the error and sends
  nothing.
* `handledRight_iff`: which URLs are handled as the form `http://host:port`
  asks for.
-/
namespace Gr4cp.Cli

open Gr4cp.Core
open Gr4cp.Runtime (isDigit allDigits decimal allDigits_mem)

/-! ## Requests and replies -/

structure Request where
  method : Str
  path : Str
  body : Option Str := none
  deriving DecidableEq

structure Response where
  status : Nat
  body : Str

/-- `nlohmann::json::parse_error`, and its other exceptions. -/
inductive JsonError where
  | parseError (what : Str)
  | other (what : Str)

def JsonError.thrown : JsonError → Thrown
  | .parseError what => .other what
  | .other what => .other what

/-- What the CLI uses and the repository does not hold. `exchange` is what a
client made of a host and a port gets back; `none` is no response. -/
structure World where
  readFile : Str → Option Str
  dump : Json → Except JsonError Str
  pretty : Json → Except JsonError Str
  parse : Str → Except JsonError Json
  exchange : ParsedUrl → Request → Option Response

/-- mirrors src/cli/cli.cpp:92-113 -/
def findErrorMessage (w : World) (response : Response) : Except Thrown (Option Str) :=
  if response.body.isEmpty then .ok none
  else
    match w.parse response.body with
    | .error (.parseError _) => .ok none
    | .error (.other what) => .error (.other what)
    | .ok body =>
      match body.member (str "error") with
      | none => .ok none
      | some error =>
        match error.member (str "code"), error.member (str "message") with
        | some (.str code), some (.str message) => .ok (some (code ++ str ": " ++ message))
        | _, _ => .ok none

/-- mirrors src/cli/cli.cpp:115-121 -/
def requireResponse (response : Option Response) : Except Thrown Response :=
  match response with
  | some response => .ok response
  | none => .error (.cliError (str "request failed"))

/-- A reply that is no success.
mirrors src/cli/cli.cpp:159-162,171-174 -/
def failedReply (w : World) (response : Response) : Thrown :=
  match findErrorMessage w response with
  | .error e => e
  | .ok (some message) => .cliError message
  | .ok none => .cliError (str "server returned HTTP " ++ natStr response.status)

/-- mirrors src/cli/cli.cpp:123-126,152-162 -/
def replyJson (w : World) (response : Response) : Except Thrown Json :=
  if 200 ≤ response.status ∧ response.status < 300 then
    if response.body.isEmpty then .ok .null
    else (w.parse response.body).mapError JsonError.thrown
  else .error (failedReply w response)

/-- mirrors src/cli/cli.cpp:168-174 -/
def replyNoContent (w : World) (response : Response) : Except Thrown Unit :=
  if response.status = 204 then .ok () else .error (failedReply w response)

/-! ## Commands and their options -/

/-- What is done to one session. -/
inductive SessionCommand where
  | get | start | stop | restart | delete
  deriving DecidableEq, Repr

inductive Command where
  | create (filePath name : Str)
  | list
  | session (command : SessionCommand) (id : Str)
  deriving DecidableEq

/-- mirrors src/cli/cli.cpp:21 -/
def kDefaultUrl : Str := str "http://127.0.0.1:8080"

/-- A command and the `CommandContext` it is run in. -/
structure Invocation where
  command : Command
  url : Str
  deriving DecidableEq

/-- The URL that is used unless another `--url` follows, and the options.
mirrors src/cli/cli.cpp:177-192 -/
def parseCommonOptions : List Str → Str → Except Thrown Str
  | [], url => .ok url
  | [arg], _ =>
    if arg = str "--url" then .error (.cliError (str "--url requires a value"))
    else .error (.cliError (str "unknown option: " ++ arg))
  | arg :: value :: args, _ =>
    if arg = str "--url" then parseCommonOptions args value
    else .error (.cliError (str "unknown option: " ++ arg))

/-- mirrors src/cli/cli.cpp:211-238 -/
def parseCreateOptions : List Str → Str → Str → Str → Except Thrown Invocation
  | [], filePath, name, url =>
    if filePath.isEmpty then .error (.cliError (str "create requires --file"))
    else .ok ⟨.create filePath name, url⟩
  | [arg], _, _, _ =>
    if arg = str "--file" ∨ arg = str "--name" ∨ arg = str "--url" then
      .error (.cliError (arg ++ str " requires a value"))
    else .error (.cliError (str "unknown option: " ++ arg))
  | arg :: value :: args, filePath, name, url =>
    if arg = str "--file" then parseCreateOptions args value name url
    else if arg = str "--name" then parseCreateOptions args filePath value url
    else if arg = str "--url" then parseCreateOptions args filePath name value
    else .error (.cliError (str "unknown option: " ++ arg))

def SessionCommand.name : SessionCommand → Str
  | .get => str "get"
  | .start => str "start"
  | .stop => str "stop"
  | .restart => str "restart"
  | .delete => str "delete"

def sessionCommand (command : Str) : Option SessionCommand :=
  [.get, .start, .stop, .restart, .delete].find? fun c => c.name == command

/-- The command and its options.
mirrors src/cli/cli.cpp:207-261,285 -/
def parseCommand (command : Str) (options : List Str) : Except Thrown Invocation :=
  if command = str "create" then parseCreateOptions options [] [] kDefaultUrl
  else if command = str "list" then
    (parseCommonOptions options kDefaultUrl).map fun url => ⟨.list, url⟩
  else
    match sessionCommand command with
    | none => .error (.cliError (str "unknown sessions command: " ++ command))
    | some c =>
      match options with
      | [] => .error (.cliError (command ++ str " requires a session id"))
      | id :: options => (parseCommonOptions options kDefaultUrl).map fun url => ⟨.session c id, url⟩

/-- mirrors src/cli/cli.cpp:194-199 -/
def makeClient (url : Str) : Except Thrown ParsedUrl := parseUrl url

/-- The request of a command.
mirrors src/cli/cli.cpp:128-144,241-280 -/
def Command.request (w : World) : Command → Except Thrown Request
  | .create filePath name =>
    match w.readFile filePath with
    | none => .error (.cliError (str "failed to read file: " ++ filePath))
    | some grc =>
      match w.dump (.obj [(str "grc", .str grc), (str "name", .str name)]) with
      | .error e => .error e.thrown
      | .ok payload => .ok ⟨str "POST", str "/sessions", some payload⟩
  | .list => .ok ⟨str "GET", str "/sessions", none⟩
  | .session .get id => .ok ⟨str "GET", str "/sessions/" ++ id, none⟩
  | .session .start id => .ok ⟨str "POST", str "/sessions/" ++ id ++ str "/start", some []⟩
  | .session .stop id => .ok ⟨str "POST", str "/sessions/" ++ id ++ str "/stop", some []⟩
  | .session .restart id => .ok ⟨str "POST", str "/sessions/" ++ id ++ str "/restart", some []⟩
  | .session .delete id => .ok ⟨str "DELETE", str "/sessions/" ++ id, none⟩

/-- What a command prints of its reply.
mirrors src/cli/cli.cpp:146-175,242-282 -/
def Command.output (w : World) (command : Command) (response : Option Response) :
    Except Thrown Str :=
  match requireResponse response with
  | .error e => .error e
  | .ok response =>
    match command with
    | .session .delete id =>
      match replyNoContent w response with
      | .error e => .error e
      | .ok () => .ok (str "deleted " ++ id ++ str "\n")
    | _ =>
      match replyJson w response with
      | .error e => .error e
      | .ok body =>
        match w.pretty body with
        | .error e => .error e.thrown
        | .ok text => .ok (text ++ str "\n")

/-! ## Runs -/

/-- A request and the client it is sent by. -/
structure Sent where
  client : ParsedUrl
  request : Request
  deriving DecidableEq

/-- What a run leaves behind: its exit code, what it printed, and what it
sent. -/
structure Outcome where
  exitCode : Nat
  out : Str := []
  err : Str := []
  requests : List Sent := []

/-- mirrors src/cli/cli.cpp:38-47 -/
def usage : Str :=
  str "usage:\n" ++
  str "  gr4cp-cli sessions create --file <path> [--name <name>] [--url <url>]\n" ++
  str "  gr4cp-cli sessions list [--url <url>]\n" ++
  str "  gr4cp-cli sessions get <id> [--url <url>]\n" ++
  str "  gr4cp-cli sessions start <id> [--url <url>]\n" ++
  str "  gr4cp-cli sessions stop <id> [--url <url>]\n" ++
  str "  gr4cp-cli sessions restart <id> [--url <url>]\n" ++
  str "  gr4cp-cli sessions delete <id> [--url <url>]\n"

/-- `what()` is a C string. -/
def Thrown.what : Thrown → Str
  | .cliError what => cString what
  | .other what => cString what

/-- mirrors src/cli/cli.cpp:286-292 -/
def caught (e : Thrown) (requests : List Sent) : Outcome :=
  { exitCode := 1, err := e.what ++ str "\n", requests := requests }

/-- A command once there is a client for it. -/
def runCommand (w : World) (client : ParsedUrl) (command : Command) : Outcome :=
  match command.request w with
  | .error e => caught e []
  | .ok request =>
    match command.output w (w.exchange client request) with
    | .error e => caught e [⟨client, request⟩]
    | .ok text => { exitCode := 0, out := text, requests := [⟨client, request⟩] }

/-- mirrors src/cli/cli.cpp:201-293 -/
def runSessions (w : World) : List Str → Outcome
  | first :: command :: options =>
    if first ≠ str "sessions" then { exitCode := 1, err := usage }
    else
      match parseCommand command options with
      | .error e => caught e []
      | .ok invocation =>
        match makeClient invocation.url with
        | .error e => caught e []
        | .ok client => runCommand w client invocation.command
  | _ => { exitCode := 1, err := usage }

/-- mirrors src/cli/cli.cpp:297-304 -/
def run (w : World) (args : List Str) : Outcome :=
  if args.isEmpty then { exitCode := 1, err := usage } else runSessions w args

/-- The URL a command line gives its command. -/
def commandUrl : List Str → Option Str
  | first :: command :: options =>
    if first ≠ str "sessions" then none
    else
      match parseCommand command options with
      | .error _ => none
      | .ok invocation => some invocation.url
  | _ => none

theorem runCommand_requests {w : World} {client : ParsedUrl} {command : Command} {sent : Sent}
    (h : sent ∈ (runCommand w client command).requests) : sent.client = client := by
  unfold runCommand at h
  split at h
  · cases h
  · split at h
    · rw [caught, List.mem_singleton] at h
      rw [h]
    · rw [List.mem_singleton] at h
      rw [h]

/-- Whatever is sent goes where the URL says. -/
theorem run_requests {w : World} {args : List Str} {sent : Sent}
    (h : sent ∈ (run w args).requests) :
    ∃ url, commandUrl args = some url ∧ parseUrl url = .ok sent.client := by
  unfold run at h
  split at h
  · cases h
  · unfold runSessions at h
    split at h
    · split at h
      · cases h
      · rename_i hsessions
        split at h
        · cases h
        · rename_i invocation hparse
          split at h
          · cases h
          · rename_i client hclient
            refine ⟨invocation.url, ?_, runCommand_requests h ▸ hclient⟩
            simp only [commandUrl, if_neg hsessions, hparse]
    · cases h

/-- A run whose URL is rejected prints the error, and that is all. -/
theorem run_rejected {args : List Str} {url : Str} {e : Thrown} (hurl : commandUrl args = some url)
    (hparse : parseUrl url = .error e) (w : World) : run w args = caught e [] := by
  unfold commandUrl at hurl
  split at hurl
  · rename_i first command options
    split at hurl
    · cases hurl
    · rename_i hsessions
      split at hurl
      · cases hurl
      · rename_i invocation hcommand
        obtain rfl := Option.some.inj hurl
        unfold run runSessions
        simp only [List.isEmpty_cons, Bool.false_eq_true, if_false, if_neg hsessions, hcommand,
          makeClient, hparse]
  · cases hurl

/-! ## The form of a URL -/

/-- `url` is `http://host:port`, with the digits of a port. -/
structure ServerUrl (url host digits : Str) : Prop where
  url_eq : url = str "http://" ++ host ++ str ":" ++ digits
  host_ne : host ≠ []
  all_digits : allDigits digits = true
  port_le : decimal digits ≤ 65535

/-- A URL of the form is accepted as its host and port; any other is
rejected, and no run that is given it sends anything. -/
def HandledRight (url : Str) : Prop :=
  (∀ host digits, ServerUrl url host digits →
    parseUrl url = .ok { host := host, port := Int32.ofNat (decimal digits) }) ∧
  ((¬∃ host digits, ServerUrl url host digits) →
    (∃ what, parseUrl url = .error (.cliError what)) ∧
      ∀ w args, commandUrl args = some url → (run w args).requests = [])

theorem digits_no_colon {digits : Str} (h : allDigits digits = true) : chr ':' ∉ digits := by
  intro hmem
  exact absurd (allDigits_mem h hmem) (by decide)

/-- The last `:` is where it is. -/
theorem last_colon_unique {host text host' text' : Str} (h : chr ':' ∉ text)
    (h' : chr ':' ∉ text')
    (heq : str "http://" ++ host ++ str ":" ++ text = str "http://" ++ host' ++ str ":" ++ text') :
    host = host' ∧ text = text' := by
  simp only [List.append_assoc, List.append_cancel_left_eq] at heq
  have hlast := Str.findLast_byte h host
  have hlast' := Str.findLast_byte h' host'
  have heq' : host ++ chr ':' :: text = host' ++ chr ':' :: text' := heq
  rw [heq', hlast', Option.some.injEq] at hlast
  obtain ⟨hhost, htext⟩ := List.append_inj heq' hlast.symm
  exact ⟨hhost, (List.cons.inj htext).2⟩

/-- Digits alone are read as the number they denote. -/
theorem reads_digits {digits : Str} (h : allDigits digits = true) (hle : decimal digits ≤ 65535) :
    Reads digits [] [] digits [] where
  text_eq := by simp
  blanks_space := by simp
  sign_eq := Or.inl rfl
  all_digits := h
  rest_stops := by simp
  in_range := by
    show IntRange (decimal digits : Int)
    unfold IntRange
    omega

theorem ServerUrl.parse {url host digits : Str} (h : ServerUrl url host digits) :
    parseUrl url = .ok { host := host, port := Int32.ofNat (decimal digits) } := by
  have hport : stoi digits = some (Int32.ofNat (decimal digits)) := by
    rw [stoi_of_reads (reads_digits h.all_digits h.port_le), ← Int32.ofInt_eq_ofNat]
    rfl
  rw [h.url_eq]
  exact parseUrl_ok h.host_ne (digits_no_colon h.all_digits) hport

/-- A text of digits has no blanks, no sign and no rest. -/
theorem Reads.plain {text blanks sign digits rest : Str} (h : Reads text blanks sign digits rest)
    (htext : allDigits text = true) : blanks = [] ∧ sign = [] ∧ rest = [] := by
  have hdigit : ∀ c ∈ blanks ++ sign ++ digits ++ rest, isDigit c = true := by
    intro c hc
    exact allDigits_mem htext (h.text_eq ▸ hc)
  refine ⟨?_, ?_, ?_⟩
  · cases blanks with
    | nil => rfl
    | cons c s =>
      have hspace := h.blanks_space c (List.mem_cons_self ..)
      rw [digit_not_space (hdigit c (by simp))] at hspace
      cases hspace
  · obtain hs | hs | hs := h.sign_eq
    · exact hs
    · exact absurd (hdigit (chr '+') (by simp [hs, str, chr])) (by decide)
    · exact absurd (hdigit (chr '-') (by simp [hs, str, chr])) (by decide)
  · cases rest with
    | nil => rfl
    | cons c s =>
      have hstop := h.rest_stops c s rfl
      rw [hdigit c (by simp)] at hstop
      cases hstop

theorem run_silent {args : List Str} {url : Str} {e : Thrown} (hurl : commandUrl args = some url)
    (hparse : parseUrl url = .error e) (w : World) : (run w args).requests = [] := by
  rw [run_rejected hurl hparse]
  rfl

theorem handledRight_iff (url : Str) :
    HandledRight url ↔
      ∀ host text blanks sign digits rest, url = str "http://" ++ host ++ str ":" ++ text →
        host ≠ [] → chr ':' ∉ text → Reads text blanks sign digits rest →
        blanks = [] ∧ sign = [] ∧ rest = [] ∧ decimal digits ≤ 65535 := by
  refine ⟨?_, ?_⟩
  · intro hright host text blanks sign digits rest hurl hhost hcolon hreads
    have hok := parseUrl_ok hhost hcolon (stoi_of_reads hreads)
    have hform : ∃ host digits, ServerUrl url host digits := by
      refine Classical.byContradiction fun hno => ?_
      obtain ⟨what, herr⟩ := (hright.2 hno).1
      rw [hurl, hok] at herr
      cases herr
    obtain ⟨host', digits', hform⟩ := hform
    have heq := hurl.symm.trans hform.url_eq
    obtain ⟨rfl, rfl⟩ := last_colon_unique hcolon (digits_no_colon hform.all_digits) heq
    obtain ⟨rfl, rfl, rfl⟩ := hreads.plain hform.all_digits
    have htext : text = digits := by simpa using hreads.text_eq
    exact ⟨rfl, rfl, rfl, htext ▸ hform.port_le⟩
  · intro hplain
    refine ⟨fun host digits hform => hform.parse, ?_⟩
    intro hno
    cases hparse : parseUrl url with
    | error e =>
      obtain ⟨what, rfl⟩ := parseUrl_error hparse
      exact ⟨⟨what, rfl⟩, fun w args hurl => run_silent hurl hparse w⟩
    | ok parsed =>
      obtain ⟨host, text, hurl, hhost, hcolon, hn, _⟩ := parseUrl_eq_ok hparse
      obtain ⟨blanks, sign, digits, rest, hreads⟩ := stoi_eq_some hn
      obtain ⟨rfl, rfl, rfl, hle⟩ :=
        hplain host text blanks sign digits rest hurl hhost hcolon hreads
      have htext : text = digits := by simpa using hreads.text_eq
      subst htext
      exact absurd ⟨host, text, hurl, hhost, hreads.all_digits, hle⟩ hno

/-- `http://h:80/path` is taken for the server `h` and the port 80. -/
theorem accepts_path : ¬HandledRight (str "http://h:80/path") := by
  intro h
  have hno : ¬∃ host digits, ServerUrl (str "http://h:80/path") host digits := by
    intro hex
    obtain ⟨host, digits, hform⟩ := hex
    have hlast : isDigit (chr 'h') = true := by
      refine allDigits_mem hform.all_digits (List.mem_of_getLast? ?_)
      have hend := congrArg List.getLast? hform.url_eq
      rw [List.getLast?_append_of_ne_nil _ (Runtime.allDigits_ne_nil hform.all_digits)] at hend
      exact hend.symm
    exact absurd hlast (by decide)
  obtain ⟨what, herr⟩ := (h.2 hno).1
  have hok : parseUrl (str "http://h:80/path") = .ok { host := str "h", port := 80 } := rfl
  rw [hok] at herr
  cases herr

end Gr4cp.Cli
