import ApiConsole.Proofs.Snippet.Exported
import ApiConsole.Proofs.Snippet.PythonLiteral

/-!
# The request that a script sends

The Python snippet of a request, read as a script, makes one call of the library
(`calls_python_snippet`). Main theorem `python_sends_request`: method and URL of the call are those
of the request that is sent, and the call transmits a JSON text of its body, unless the body is the
JSON value null: the library takes `json=None` for no body.
-/
namespace ApiConsole.Python

open Json Text Reader

/-! ## What a call transmits -/

/-- The body that a call transmits, where `dumps` writes data as text: the text `data`, or the data
`json` unless they are `None`. -/
def Call.sent? (dumps : Value → String) (c : Call) : Option String :=
  match c.keywords.lookup "data", c.keywords.lookup "json" with
  | some (.string s), _ => some s
  | _, some .null => none
  | _, some v => some (dumps v)
  | _, none => none

/-- A function that writes values without fractions as JSON. -/
def WritesJson (dumps : Value → String) : Prop :=
  ∀ v, Formed depthLimit v → NoFractions v → parse? (dumps v) = some v

/-! ## The parts of a snippet -/

/-- A script in front of a statement, with values given to names. -/
def Script.between (globals : List (String × Thing)) : Script := ⟨globals, [], none, [], .empty⟩

/-- What the import gives. -/
def imported : List (String × Thing) := [("requests", .library)]

/-- What the assignment in front of a call gives. -/
def bodyGlobals : Option SnippetBody → List (String × Thing)
  | none => imported
  | some (.json v) => ("payload", .data v) :: imported
  | some (.raw s) => ("data", .data (.string s)) :: imported

/-- The keyword arguments of a call. -/
def bodyKeywords : Option SnippetBody → List (String × Value)
  | none => []
  | some (.json v) => [("json", v)]
  | some (.raw s) =>
    [("headers", .object [("Content-Type", .string "application/json")]), ("data", .string s)]

theorem read_import (rest : List Char) :
    read ⟨.start, .blank⟩ ("import requests\n\n".toList ++ rest) =
      read ⟨.between imported, .blank⟩ rest := by
  rw [read_append]
  rfl

/-- An assignment of data to a name, with an empty line behind it. -/
theorem read_assignment (name : String) {text : List Char} {v : Value} (h : Reads text v)
    (hname : read ⟨.between imported, .blank⟩ (name ++ " = ").toList =
      some ⟨{ Script.between imported with target := some name }, .blank⟩) (rest : List Char) :
    read ⟨.between imported, .blank⟩ ((name ++ " = ").toList ++ (text ++ '\n' :: '\n' :: rest)) =
      read ⟨.between ((name, .data v) :: imported), .blank⟩ rest := by
  rw [read_append, hname, Option.bind_some, h.read_behind rfl (by unfold IsBreak; decide)]
  rfl

theorem read_preamble {body : Option SnippetBody} (h : ∀ v, body = some (.json v) → IsData v)
    (rest : List Char) :
    read ⟨.between imported, .blank⟩ ((Snippet.pythonPreamble body).toList ++ rest) =
      read ⟨.between (bodyGlobals body), .blank⟩ rest := by
  match body with
  | none => rfl
  | some (.json v) =>
    have htext : (Snippet.pythonPreamble (some (.json v))).toList ++ rest =
        ("payload" ++ " = ").toList ++ (PythonLiteral.literal 0 v ++ '\n' :: '\n' :: rest) := by
      simp [Snippet.pythonPreamble, PythonLiteral.text]
    rw [htext, read_assignment "payload" (reads_literal (h v rfl) 0) rfl]
    rfl
  | some (.raw s) =>
    have htext : (Snippet.pythonPreamble (some (.raw s))).toList ++ rest =
        ("data" ++ " = ").toList ++ (quote s.toList ++ '\n' :: '\n' :: rest) := by
      simp [Snippet.pythonPreamble, quoteString]
    rw [htext, read_assignment "data" (reads_quote s) rfl]
    rfl

/-- A script inside the brackets of a call, up to some arguments. -/
def Script.inCall (globals : List (String × Thing)) (method : Method) (arguments : List Thing)
    (keywords : List (String × Thing)) : Script :=
  { Script.between globals with target := some "response" }.openFrame
    (.call (.function method) arguments keywords none)

theorem read_opening (method : Method) (body : Option SnippetBody) (rest : List Char) :
    read ⟨.between (bodyGlobals body), .blank⟩
        (("response = requests." ++ Snippet.pythonFunction method ++ "(\n    ").toList ++ rest) =
      read ⟨.inCall (bodyGlobals body) method [] [], .blank⟩ rest := by
  rw [read_append]
  match body with
  | none => cases method <;> rfl
  | some (.json v) => cases method <;> rfl
  | some (.raw s) => cases method <;> rfl

theorem read_url (globals : List (String × Thing)) (method : Method) (url : String)
    (rest : List Char) :
    read ⟨.inCall globals method [] [], .blank⟩ (quote url.toList ++ ',' :: '\n' :: rest) =
      read ⟨.inCall globals method [.data (.string url)] [], .blank⟩ rest :=
  (reads_quote url).read_line _ rfl rest

/-- The arguments behind the URL. -/
theorem read_arguments (method : Method) (url : String) (body : Option SnippetBody)
    (rest : List Char) :
    read ⟨.inCall (bodyGlobals body) method [.data (.string url)] [], .blank⟩
        ((Snippet.pythonArguments body).toList ++ rest) =
      read ⟨.inCall (bodyGlobals body) method [.data (.string url)]
        ((bodyKeywords body).map fun k => (k.1, .data k.2)), .blank⟩ rest := by
  rw [read_append]
  match body with
  | none => rfl
  | some (.json v) =>
    change (read _ "    json=payload,\n".toList).bind _ = _
    rfl
  | some (.raw s) =>
    change (read _
      "    headers=\x7b\"Content-Type\": \"application/json\"\x7d,\n    data=data,\n".toList).bind _ = _
    rfl

/-- The end of the call, and the lines that print what it gave. -/
theorem read_ending (method : Method) (url : String) (body : Option SnippetBody) :
    ((read ⟨.inCall (bodyGlobals body) method [.data (.string url)]
          ((bodyKeywords body).map fun k => (k.1, .data k.2)), .blank⟩
        ")\n\nprint(response.status_code)\nprint(response.text)".toList).bind
          (·.flush?)).bind (fun s => s.endLine.map (·.calls)) =
      some [⟨method, url, bodyKeywords body⟩] := by
  match body with
  | none => rfl
  | some (.json v) => rfl
  | some (.raw s) => rfl

/-- **The script of a request makes one call**, with its method, its URL and its body. -/
theorem calls_python_snippet (method : Method) (url draft : String)
    (h : ∀ v, SnippetBody.ofDraft method draft = some (.json v) → IsData v) :
    calls (Snippet.generate .python method url draft).fullCode =
      some [⟨method, url, bodyKeywords (SnippetBody.ofDraft method draft)⟩] := by
  have htext : (Snippet.generate .python method url draft).fullCode.toList =
      "import requests\n\n".toList ++
        ((Snippet.pythonPreamble (SnippetBody.ofDraft method draft)).toList ++
          (("response = requests." ++ Snippet.pythonFunction method ++ "(\n    ").toList ++
            (quote url.toList ++ ',' :: '\n' ::
              ((Snippet.pythonArguments (SnippetBody.ofDraft method draft)).toList ++
                ")\n\nprint(response.status_code)\nprint(response.text)".toList)))) := by
    have hfull : (Snippet.generate .python method url draft).fullCode = "import requests\n\n" ++
        Snippet.pythonCode method url (SnippetBody.ofDraft method draft) := rfl
    have hcomma : ∀ rest, ",\n".toList ++ rest = ',' :: '\n' :: rest := fun _ => rfl
    rw [hfull]
    simp only [Snippet.pythonCode, quoteString, String.toList_append, String.toList_ofList,
      List.append_assoc, hcomma, List.cons_append]
  unfold calls
  rw [htext, read_import, read_preamble h, read_opening, read_url, read_arguments]
  exact read_ending method url _

/-- Data that are not `None` are transmitted. -/
theorem sent?_json_iff (dumps : Value → String) (method : Method) (url : String) (v : Value)
    {sent : String} :
    (Call.mk method url (bodyKeywords (some (.json v)))).sent? dumps = some sent ↔
      v ≠ .null ∧ sent = dumps v := by
  cases v with
  | null => exact iff_of_false nofun fun h => h.1 rfl
  | bool | number | string | array | object =>
    exact ⟨fun h => ⟨nofun, (Option.some.inj h).symm⟩, fun h => congrArg some h.2.symm⟩

/-! ## Requests that can be sent -/

/-- **The script of a request performs the request that is sent**, but for a body that is null: then
its call transmits none. -/
theorem python_sends_request {dumps : Value → String} (hdumps : WritesJson dumps) {r p : Request}
    (h : r.prepare = .ok p)
    (hints : ∀ text v, p.body = some text → parse? text = some v → NoFractions v) :
    ∃ call, calls (Snippet.ofRequest .python r).fullCode = some [call] ∧
      call.method = p.method ∧ call.url = p.url ∧
      ((∃ sent, call.sent? dumps = some sent) ↔
        ∃ text, p.body = some text ∧ parse? text ≠ some .null) ∧
      ∀ sent, call.sent? dumps = some sent →
        ∃ text v, p.body = some text ∧ parse? text = some v ∧ parse? sent = some v := by
  obtain ⟨hmethod, hurl, -, hsendable⟩ := Request.prepare_eq_ok_iff.1 h
  have hdraft := ofDraft_of_prepare h
  have hdata : ∀ v, SnippetBody.ofDraft r.method (r.body.getD "") = some (.json v) →
      IsData v := by
    intro v hv
    rw [hdraft] at hv
    obtain ⟨text, htext, hparse⟩ := Option.bind_eq_some_iff.1 hv
    obtain ⟨w, hw, hjson⟩ := Option.map_eq_some_iff.1 hparse
    cases hjson
    exact isData_of_formed (formed_of_parse? hw) (hints text _ htext hw)
  refine ⟨_, calls_python_snippet r.method r.url _ hdata, hmethod.symm, hurl.symm, ?_⟩
  rw [hdraft]
  cases hp : p.body with
  | none =>
    refine ⟨iff_of_false ?_ ?_, ?_⟩
    · rintro ⟨sent, ⟨⟩⟩
    · rintro ⟨text, ⟨⟩, -⟩
    · rintro sent ⟨⟩
  | some text =>
    obtain ⟨v, hv⟩ := parse?_of_sendable hsendable hp
    rw [Option.bind_some, hv, Option.map_some]
    refine ⟨⟨?_, ?_⟩, ?_⟩
    · rintro ⟨sent, hsent⟩
      have hnull := ((sent?_json_iff dumps _ _ v).1 hsent).1
      exact ⟨text, rfl, by rwa [hv, Ne, Option.some.injEq]⟩
    · rintro ⟨_, ⟨⟩, hnull⟩
      refine ⟨dumps v, (sent?_json_iff dumps _ _ v).2 ⟨?_, rfl⟩⟩
      rwa [hv, Ne, Option.some.injEq] at hnull
    · intro sent hsent
      obtain ⟨-, rfl⟩ := (sent?_json_iff dumps _ _ v).1 hsent
      exact ⟨text, v, rfl, hv, hdumps v (formed_of_parse? hv) (hints text v hp hv)⟩

/-- The indented form writes values without fractions as JSON. -/
theorem writesJson_pretty : WritesJson Value.pretty := by
  intro v hv hints
  rw [parse?_pretty hv, reread?_eq_self_iff hv]
  exact fun x hx => absurd hx (hints x)

/-- A request of which the body is a list without items. -/
def emptyListRequest : Request := ⟨.put, "http://h/\"x\"", some " [ ] "⟩

theorem python_sends_empty_list :
    emptyListRequest.prepare = .ok emptyListRequest ∧
      ∃ call, calls (Snippet.ofRequest .python emptyListRequest).fullCode = some [call] ∧
        call.method = .put ∧ call.url = "http://h/\"x\"" ∧
        ∃ sent, call.sent? Value.pretty = some sent ∧ parse? sent = some (.array []) := by
  have hprepare : emptyListRequest.prepare = .ok emptyListRequest := rfl
  have hparse : parse? " [ ] " = some (.array []) := rfl
  have hints : ∀ text v, emptyListRequest.body = some text → parse? text = some v →
      NoFractions v := by
    rintro _ v ⟨⟩ hv x hx
    rw [hparse] at hv
    cases hv
    cases hx with
    | item hmem _ => cases hmem
  obtain ⟨call, hcalls, hmethod, hurl, hbody, hsame⟩ :=
    python_sends_request writesJson_pretty hprepare hints
  obtain ⟨sent, hsent⟩ := hbody.2 ⟨" [ ] ", rfl, by rw [hparse]; nofun⟩
  obtain ⟨_, v, ⟨⟩, hv, hread⟩ := hsame sent hsent
  rw [hparse] at hv
  cases hv
  exact ⟨hprepare, call, hcalls, hmethod, hurl, sent, hsent, hread⟩

/-- A request of which the body is the JSON value null. -/
def nullRequest : Request := ⟨.post, "http://h/x", some "null"⟩

/-- **A body that is null is sent by the request, and not by its script.** -/
theorem null_not_sent :
    nullRequest.prepare = .ok nullRequest ∧ nullRequest.body = some "null" ∧
      ∃ call, calls (Snippet.ofRequest .python nullRequest).fullCode = some [call] ∧
        ∀ dumps, call.sent? dumps = none := by
  have hdraft : SnippetBody.ofDraft .post "null" = some (.json .null) := rfl
  have hcalls := calls_python_snippet .post "http://h/x" "null" fun v hv => by
    rw [hdraft] at hv
    cases hv
    exact .null
  rw [hdraft] at hcalls
  exact ⟨rfl, rfl, _, hcalls, fun _ => rfl⟩

end ApiConsole.Python
