import EpollWebServer.Pool

/-!
**The request parser and response builder: `process_http_request` and the error replies.**

`process_http_request` NUL-terminates the buffer at `buffer_used`. It then reads the C string
there. Anything but `GET ` gets the 501 literal. Otherwise it takes the path `sscanf` finds,
rewrites `/` to `/index.html`, and opens the path under `./www`. A missing file gets the 404
literal. Otherwise it builds a 200 header and the file's bytes, or the 500 literal when
`malloc` fails or `read` falls short. The 413 and 503 literals of `main` sit here too.
`buildResponse` is the part that reads the request text. `processHttpRequest` stores its
`Reply` in the connection.

The two response properties the spec asks for are framing (`contentLengthExact`: the header
block, up to the first CR LF CR LF, carries `Content-Length: n` for the `n` bytes after it)
and the keep-alive advertisement (`advertisesKeepAlive`).

* `splitHeader_append`: a header block with no earlier terminator splits where it ends.
* `okHeader_contentLengthExact`: every 200 response is exactly framed, for every file size and
  content; the 404 and 500 literals are too (`response404_contentLengthExact`).
* `response501_not_contentLengthExact`: the 501 literal says 28 for a body of 27 bytes.
* `buildResponse_advertises`: every reply advertises keep-alive exactly when it sets
  `keep_alive`.
* `buildResponse_keepAlive_iff`: that happens for a `GET ` request with the keep-alive marker
  whose file was served whole, and then the response is that 200 reply.
-/

namespace EpollWebServer

/-! ### The collaborators -/

/-- What `open`, `fstat` and `read` report for a path that opens. -/
structure OpenedFile where
  /-- `st_size` from `fstat`. -/
  size : Nat
  /-- What `read (file_fd, ..., file_size)` stored: `none` when it returned -1, else the bytes
  (their number is what it returned). -/
  contents : Option (List UInt8)

/-- The answers of the collaborators during one call of `process_http_request`. -/
structure Collaborators where
  /-- The document root: what opening each full path gives (`none` when `open` fails). -/
  docRoot : List UInt8 → Option OpenedFile
  mallocOk : Bool
  strdupOk : Bool

/-! ### The literals -/

/-- The 501 reply of `process_http_request`. -/
def response501 : List UInt8 :=
  bytesOf ("HTTP/1.1 501 Not Implemented\r\n" ++ "Content-Length: 28\r\n" ++
    "Connection: close\r\n" ++ "\r\n" ++ "Only GET requests supported")

/-- The 404 reply of `process_http_request`. -/
def response404 : List UInt8 :=
  bytesOf ("HTTP/1.1 404 Not Found\r\n" ++ "Content-Length: 14\r\n" ++ "Connection: close\r\n" ++
    "\r\n" ++ "File not found")

/-- The 500 reply of `process_http_request` (both of its failure paths). -/
def response500 : List UInt8 :=
  bytesOf ("HTTP/1.1 500 Internal Server Error\r\n" ++ "Content-Length: 21\r\n" ++
    "Connection: close\r\n" ++ "\r\n" ++ "Internal Server Error")

/-- The 413 reply `main` installs when the buffer fills without a complete request. -/
def response413 : List UInt8 :=
  bytesOf ("HTTP/1.1 413 Request Entity Too Large\r\n" ++ "Content-Length: 24\r\n" ++
    "Connection: close\r\n" ++ "\r\n" ++ "Request is too large")

/-- The 503 message `main` sends on a connection the full pool cannot take. -/
def response503 : List UInt8 :=
  bytesOf ("HTTP/1.1 503 Service Unavailable\r\n" ++ "Content-Length: 21\r\n" ++
    "Connection: close\r\n" ++ "\r\n" ++ "Server is overloaded")

/-- The terminator `main` searches for, and that ends every header block. -/
def headerEnd : List UInt8 := bytesOf "\r\n\r\n"

/-! ### `process_http_request` -/

/-- What a request handler stores in the connection: `response` (`none` when the `strdup`
behind it failed), `response_size` and `keep_alive`. `response_sent` is reset to 0 alongside. -/
structure Reply where
  response : Option (List UInt8)
  responseSize : Nat
  keepAlive : Bool

/-- An error reply: `strdup` of a literal, `strlen` of it, and `keep_alive = 0`. -/
def errorReply (msg : List UInt8) (strdupOk : Bool) : Reply :=
  ⟨if strdupOk then some msg else none, msg.length, false⟩

/-- Storing a reply, with `response_sent = 0`. -/
def Connection.store (c : Connection) (r : Reply) : Connection :=
  { c with response := r.response, responseSize := r.responseSize, responseSent := 0,
           keepAlive := r.keepAlive }

/-- `conn->buffer[conn->buffer_used] = '\0'`. -/
def Connection.terminate (c : Connection) : Connection :=
  { c with buffer := c.buffer.set c.bufferUsed 0,
           length_buffer := by rw [List.length_set, c.length_buffer] }

/-- `sscanf (conn->buffer, "GET %s", path)` on a request that starts with `GET `: the first run
of non-space bytes after `GET`, or nothing when there is none (the array stays zeroed). -/
def scanPath (request : List UInt8) : List UInt8 :=
  ((request.drop 3).dropWhile isspace).takeWhile fun b => !isspace b

/-- `if (strcmp (path, "/") == 0) strcpy (path, "/index.html")`. -/
def defaultPath (path : List UInt8) : List UInt8 :=
  if path = bytesOf "/" then bytesOf "/index.html" else path

/-- `snprintf (full_path, sizeof full_path, "%s%s", WEB_ROOT, path)`. -/
def fullPath (path : List UInt8) : List UInt8 := (webRoot ++ path).take (bufferSize - 1)

/-- The content type `process_http_request` picks: the first extension of its list found
anywhere in the path by `strstr`. -/
def contentType (path : List UInt8) : List UInt8 :=
  if strstr path (bytesOf ".html") || strstr path (bytesOf ".htm") then bytesOf "text/html"
  else if strstr path (bytesOf ".css") then bytesOf "text/css"
  else if strstr path (bytesOf ".js") then bytesOf "application/javascript"
  else if strstr path (bytesOf ".jpg") || strstr path (bytesOf ".jpeg") then bytesOf "image/jpeg"
  else if strstr path (bytesOf ".png") then bytesOf "image/png"
  else if strstr path (bytesOf ".gif") then bytesOf "image/gif"
  else if strstr path (bytesOf ".txt") then bytesOf "text/plain"
  else bytesOf "application/octet-stream"

/-- The header `snprintf` formats for a 200 response. -/
def okHeader (contentType : List UInt8) (fileSize : Nat) (keepAlive : Bool) : List UInt8 :=
  bytesOf "HTTP/1.1 200 OK\r\nContent-Type: " ++ contentType ++ bytesOf "\r\nContent-Length: " ++
    decimal fileSize ++ bytesOf "\r\nConnection: " ++
    (if keepAlive then bytesOf "keep-alive" else bytesOf "close") ++ headerEnd

/-- The reply `process_http_request` builds from the C string `request` in the buffer. -/
def buildResponse (request : List UInt8) (env : Collaborators) : Reply :=
  if !strncmpEq request (bytesOf "GET ") 4 then errorReply response501 env.strdupOk
  else
    let keepAlive := strstr request (bytesOf "Connection: keep-alive")
    let path := defaultPath (scanPath request)
    match env.docRoot (fullPath path) with
    | none => errorReply response404 env.strdupOk
    | some file =>
      let header := okHeader (contentType path) file.size keepAlive
      if !env.mallocOk then errorReply response500 env.strdupOk
      else
        match file.contents with
        | some body =>
          if body.length = file.size then ⟨some (header ++ body), header.length + file.size, keepAlive⟩
          else errorReply response500 env.strdupOk
        | none => errorReply response500 env.strdupOk

/-- `process_http_request (conn)`. -/
def processHttpRequest (c : Connection) (env : Collaborators) : Connection :=
  c.terminate.store (buildResponse (cstr c.terminate.buffer) env)

@[simp] theorem Connection.store_fd (c : Connection) (r : Reply) : (c.store r).fd = c.fd := rfl
@[simp] theorem Connection.store_buffer (c : Connection) (r : Reply) :
    (c.store r).buffer = c.buffer := rfl
@[simp] theorem Connection.store_bufferUsed (c : Connection) (r : Reply) :
    (c.store r).bufferUsed = c.bufferUsed := rfl
@[simp] theorem Connection.store_response (c : Connection) (r : Reply) :
    (c.store r).response = r.response := rfl
@[simp] theorem Connection.store_responseSize (c : Connection) (r : Reply) :
    (c.store r).responseSize = r.responseSize := rfl
@[simp] theorem Connection.store_responseSent (c : Connection) (r : Reply) :
    (c.store r).responseSent = 0 := rfl
@[simp] theorem Connection.store_keepAlive (c : Connection) (r : Reply) :
    (c.store r).keepAlive = r.keepAlive := rfl
@[simp] theorem Connection.terminate_fd (c : Connection) : c.terminate.fd = c.fd := rfl
@[simp] theorem Connection.terminate_bufferUsed (c : Connection) :
    c.terminate.bufferUsed = c.bufferUsed := rfl
@[simp] theorem Connection.terminate_buffer (c : Connection) :
    c.terminate.buffer = c.buffer.set c.bufferUsed 0 := rfl

@[simp] theorem processHttpRequest_fd (c : Connection) (env : Collaborators) :
    (processHttpRequest c env).fd = c.fd := rfl
@[simp] theorem processHttpRequest_response (c : Connection) (env : Collaborators) :
    (processHttpRequest c env).response = (buildResponse (cstr c.terminate.buffer) env).response :=
  rfl

/-- The C string `process_http_request` reads is the request bytes `buffer[0 .. buffer_used)`,
up to their first NUL: nothing older in the buffer reaches it. -/
theorem cstr_terminate (c : Connection) (inside : c.bufferUsed < bufferSize) :
    cstr c.terminate.buffer = cstr (c.buffer.take c.bufferUsed) := by
  rw [Connection.terminate_buffer, List.set_eq_take_append_cons_drop,
    if_pos (by rw [c.length_buffer]; exact inside), cstr_append_zero]

/-! ### What a reply can be -/

/-- The marker whose presence in the request asks for keep-alive. -/
def keepAliveMarker : List UInt8 := bytesOf "Connection: keep-alive"

/-- The 200 reply for a file read whole. -/
def okReply (contentType body : List UInt8) (keepAlive : Bool) : Reply :=
  ⟨some (okHeader contentType body.length keepAlive ++ body),
    (okHeader contentType body.length keepAlive).length + body.length, keepAlive⟩

/-- The request's path as `process_http_request` resolves it. -/
def requestPath (request : List UInt8) : List UInt8 := defaultPath (scanPath request)

/-- Every reply `buildResponse` gives is one of the three error literals, or the 200 reply of
a `GET ` request whose file opened, was allocated for, and was read whole. -/
theorem buildResponse_cases (request : List UInt8) (env : Collaborators) :
    (∃ msg, ((strncmpEq request (bytesOf "GET ") 4 = false ∧ msg = response501) ∨
        msg = response404 ∨ msg = response500) ∧
        buildResponse request env = errorReply msg env.strdupOk) ∨
      (strncmpEq request (bytesOf "GET ") 4 = true ∧ env.mallocOk = true ∧
        ∃ file body, env.docRoot (fullPath (requestPath request)) = some file ∧
          file.contents = some body ∧ body.length = file.size ∧
          buildResponse request env =
            okReply (contentType (requestPath request)) body (strstr request keepAliveMarker)) := by
  unfold buildResponse
  cases get : strncmpEq request (bytesOf "GET ") 4
  · exact .inl ⟨_, .inl ⟨rfl, rfl⟩, rfl⟩
  simp only [Bool.not_true, Bool.false_eq_true, if_false]
  cases opened : env.docRoot (fullPath (defaultPath (scanPath request))) with
  | none => exact .inl ⟨_, .inr (.inl rfl), rfl⟩
  | some file =>
    cases malloc : env.mallocOk
    · exact .inl ⟨_, .inr (.inr rfl), rfl⟩
    simp only [Bool.not_true, Bool.false_eq_true, if_false]
    cases read : file.contents with
    | none => exact .inl ⟨_, .inr (.inr rfl), rfl⟩
    | some body =>
      by_cases whole : body.length = file.size
      · refine .inr ⟨by simp, by simp, file, body, opened, read, whole, ?_⟩
        simp [whole, okReply, keepAliveMarker, requestPath]
      · exact .inl ⟨_, .inr (.inr rfl), by simp [whole]⟩

/-- An error reply's `response_size` is the length of what `strdup` returned. -/
theorem errorReply_length {msg r : List UInt8} {strdupOk : Bool}
    (built : (errorReply msg strdupOk).response = some r) : r.length = (errorReply msg strdupOk).responseSize := by
  cases strdupOk <;> simp_all [errorReply]

/-- Whatever `buildResponse` stores, `response_size` is the length of the response. -/
theorem buildResponse_length (request : List UInt8) (env : Collaborators) {r : List UInt8}
    (built : (buildResponse request env).response = some r) :
    r.length = (buildResponse request env).responseSize := by
  rcases buildResponse_cases request env with ⟨msg, -, error⟩ | ⟨-, -, file, body, -, -, -, ok⟩
  · rw [error] at built ⊢
    exact errorReply_length built
  · rw [ok] at built ⊢
    simp only [okReply, Option.some.injEq] at built
    simp [← built, okReply]

/-- With `strdup` working, `process_http_request` always stores a response. -/
theorem buildResponse_response_isSome (request : List UInt8) {env : Collaborators}
    (strdup : env.strdupOk = true) : (buildResponse request env).response.isSome := by
  rcases buildResponse_cases request env with ⟨msg, -, error⟩ | ⟨-, -, file, body, -, -, -, ok⟩
  · simp [error, errorReply, strdup]
  · simp [ok, okReply]

/-! ### Framing and the keep-alive advertisement -/

/-- A response cut at its first CR LF CR LF: the header block before it and the body after. -/
def splitHeader : List UInt8 → Option (List UInt8 × List UInt8)
  | [] => none
  | b :: rest =>
    if headerEnd <+: b :: rest then some ([], rest.drop 3)
    else (splitHeader rest).map fun (header, body) => (b :: header, body)

/-- Framing by `Content-Length`: the header block has the field `Content-Length: n`, where `n`
is the number of bytes after the block. -/
def contentLengthExact (r : List UInt8) : Bool :=
  match splitHeader r with
  | some (header, body) =>
    decide (bytesOf "\r\nContent-Length: " ++ decimal body.length ++ bytesOf "\r\n" <:+:
      header ++ bytesOf "\r\n")
  | none => false

/-- The response advertises keep-alive: its header block carries `Connection: keep-alive`. -/
def advertisesKeepAlive (r : List UInt8) : Bool :=
  match splitHeader r with
  | some (header, _) => decide (keepAliveMarker <:+: header)
  | none => false

/-- The response's header block carries `Connection: close`. -/
def advertisesClose (r : List UInt8) : Bool :=
  match splitHeader r with
  | some (header, _) => decide (bytesOf "Connection: close" <:+: header)
  | none => false

theorem headerEnd_eq : headerEnd = bytesOf "\r\n\r" ++ [10] := rfl

theorem headerEnd_bytes : headerEnd = [13, 10, 13, 10] := rfl

/-- A header block with no terminator before its end splits where it ends. -/
theorem splitHeader_append {header : List UInt8} (first : ¬ headerEnd <:+: header ++ bytesOf "\r\n\r")
    (body : List UInt8) : splitHeader (header ++ headerEnd ++ body) = some (header, body) := by
  induction header with
  | nil => simp [splitHeader, headerEnd_bytes]; decide
  | cons b rest ih =>
    have notHere : ¬ headerEnd <+: b :: (rest ++ headerEnd ++ body) := by
      intro here
      refine first (List.IsPrefix.isInfix (List.prefix_of_prefix_length_le here ?_ ?_))
      · rw [headerEnd_eq]
        exact ⟨[10] ++ body, by simp⟩
      · simp [headerEnd, bytesOf]
    have later : ¬ headerEnd <:+: rest ++ bytesOf "\r\n\r" := fun occurs => first (List.infix_cons occurs)
    rw [List.cons_append, List.cons_append, splitHeader, if_neg notHere, ih later]
    rfl

/-- The labels `process_http_request` can pick. -/
def contentTypes : List (List UInt8) :=
  [bytesOf "text/html", bytesOf "text/css", bytesOf "application/javascript",
    bytesOf "image/jpeg", bytesOf "image/png", bytesOf "image/gif", bytesOf "text/plain",
    bytesOf "application/octet-stream"]

/-- An `if` whose two branches lie in a list lies in it. -/
theorem mem_ite_of_mem {α : Type} {l : List α} {c : Prop} [Decidable c] {x y : α} (left : x ∈ l)
    (right : y ∈ l) : (if c then x else y) ∈ l := by
  split <;> assumption

/- Through `mem_ite_of_mem`: splitting the chain of `if`s with `split` takes seconds. -/
theorem contentType_mem (path : List UInt8) : contentType path ∈ contentTypes := by
  unfold contentType contentTypes
  repeat' apply mem_ite_of_mem
  all_goals simp only [List.mem_cons, eq_self_iff_true, true_or, or_true]

/-- No label is empty, and none holds a CR, an LF or the letter `k`: so neither the terminator
nor the keep-alive marker can meet one. -/
theorem contentTypes_clean : ∀ ct ∈ contentTypes, ct ≠ [] ∧ ∀ x ∈ bytesOf "\r\nk", x ∉ ct := by
  decide

/-- The header block of a 200 response: its header without the final CR LF CR LF. -/
def okBlock (contentType : List UInt8) (fileSize : Nat) (keepAlive : Bool) : List UInt8 :=
  bytesOf "HTTP/1.1 200 OK\r\nContent-Type: " ++ contentType ++ bytesOf "\r\nContent-Length: " ++
    decimal fileSize ++ bytesOf "\r\nConnection: " ++
    (if keepAlive then bytesOf "keep-alive" else bytesOf "close")

theorem okHeader_eq (contentType : List UInt8) (fileSize : Nat) (keepAlive : Bool) :
    okHeader contentType fileSize keepAlive = okBlock contentType fileSize keepAlive ++ headerEnd :=
  rfl

/-- A needle without digits occurs in a 200 header block only inside the fixed text on either
side of the printed length. -/
theorem infix_okBlock {needle contentType suffix : List UInt8} {fileSize : Nat} {keepAlive : Bool}
    (nonempty : needle ≠ []) (noDigit : ∀ x ∈ needle, isDigitByte x = false)
    (occurs : needle <:+: okBlock contentType fileSize keepAlive ++ suffix) :
    needle <:+: bytesOf "HTTP/1.1 200 OK\r\nContent-Type: " ++ contentType ++
        bytesOf "\r\nContent-Length: " ∨
      needle <:+: bytesOf "\r\nConnection: " ++
        (if keepAlive then bytesOf "keep-alive" else bytesOf "close") ++ suffix := by
  refine infix_of_disjoint nonempty (decimal_ne_nil fileSize) ?_ (by simpa [okBlock] using occurs)
  intro x member digit
  simp [noDigit x member] at *
  simpa [noDigit x member] using decimal_isDigit fileSize x digit

/-- A 200 response splits at the end of its header, whatever the file holds. -/
theorem splitHeader_ok {contentType : List UInt8} (known : contentType ∈ contentTypes)
    (fileSize : Nat) (keepAlive : Bool) (body : List UInt8) :
    splitHeader (okHeader contentType fileSize keepAlive ++ body) =
      some (okBlock contentType fileSize keepAlive, body) := by
  rw [okHeader_eq]
  refine splitHeader_append (fun occurs => ?_) body
  rcases infix_okBlock (by decide) (by decide) occurs with before | after
  · obtain ⟨nonempty, clean⟩ := contentTypes_clean _ known
    have noBreak : ∀ x ∈ headerEnd, x ∉ contentType := fun x member =>
      clean x ((by decide : ∀ x ∈ headerEnd, x ∈ bytesOf "\r\nk") x member)
    rcases infix_of_disjoint (by decide) nonempty noBreak before with inLeft | inRight
    · exact absurd inLeft (by decide)
    · exact absurd inRight (by decide)
  · revert after
    cases keepAlive <;> decide

/-- Every 200 response is exactly framed: its `Content-Length` is the length of the file's
bytes that follow the header, for every file size and every content. -/
theorem okHeader_contentLengthExact {contentType : List UInt8} (known : contentType ∈ contentTypes)
    (keepAlive : Bool) (body : List UInt8) :
    contentLengthExact (okHeader contentType body.length keepAlive ++ body) = true := by
  rw [contentLengthExact, splitHeader_ok known]
  simp only [decide_eq_true_eq, okBlock]
  have line : bytesOf "\r\nConnection: " = bytesOf "\r\n" ++ bytesOf "Connection: " := rfl
  rw [line]
  exact ⟨bytesOf "HTTP/1.1 200 OK\r\nContent-Type: " ++ contentType,
    bytesOf "Connection: " ++ (if keepAlive then bytesOf "keep-alive" else bytesOf "close") ++
      bytesOf "\r\n", by simp⟩

/-- A 200 response advertises keep-alive exactly when it was built with it. -/
theorem advertisesKeepAlive_ok {contentType : List UInt8} (known : contentType ∈ contentTypes)
    (fileSize : Nat) (keepAlive : Bool) (body : List UInt8) :
    advertisesKeepAlive (okHeader contentType fileSize keepAlive ++ body) = keepAlive := by
  rw [advertisesKeepAlive, splitHeader_ok known]
  cases keepAlive
  · simp only [decide_eq_false_iff_not]
    intro occurs
    have k := occurs.subset (by decide : (107 : UInt8) ∈ keepAliveMarker)
    simp only [okBlock, Bool.false_eq_true, if_false, List.mem_append] at k
    rcases k with ((((text | label) | text) | digit) | text) | text
    · exact absurd text (by decide)
    · exact (contentTypes_clean _ known).2 107 (by decide) label
    · exact absurd text (by decide)
    · exact absurd (decimal_isDigit fileSize _ digit) (by decide)
    · exact absurd text (by decide)
    · exact absurd text (by decide)
  · have marker : keepAliveMarker = bytesOf "Connection: " ++ bytesOf "keep-alive" := rfl
    have line : bytesOf "\r\nConnection: " = bytesOf "\r\n" ++ bytesOf "Connection: " := rfl
    simp only [decide_eq_true_eq, okBlock, if_true, marker, line]
    exact ⟨bytesOf "HTTP/1.1 200 OK\r\nContent-Type: " ++ contentType ++
      bytesOf "\r\nContent-Length: " ++ decimal fileSize ++ bytesOf "\r\n", [], by simp⟩

/-! ### The error literals -/

theorem response404_contentLengthExact : contentLengthExact response404 = true := by decide

theorem response500_contentLengthExact : contentLengthExact response500 = true := by decide

/-- The 501 literal announces 28 bytes and carries the 27 of `Only GET requests supported`. -/
theorem response501_not_contentLengthExact : contentLengthExact response501 = false := by decide

set_option maxRecDepth 2000 in
/-- The 413 literal announces 24 bytes and carries the 20 of `Request is too large`. -/
theorem response413_not_contentLengthExact : contentLengthExact response413 = false := by decide

set_option maxRecDepth 2000 in
/-- The 503 literal announces 21 bytes and carries the 20 of `Server is overloaded`. -/
theorem response503_not_contentLengthExact : contentLengthExact response503 = false := by decide

/-- A request that is not a `GET` is answered with the 501 literal, which is misframed; so are
the 413 and 503 literals. -/
theorem post_response_misframed (env : Collaborators) :
    buildResponse (bytesOf "POST / HTTP/1.1\r\n\r\n") env = errorReply response501 env.strdupOk ∧
      contentLengthExact response501 = false ∧ contentLengthExact response413 = false ∧
      contentLengthExact response503 = false :=
  ⟨by rw [buildResponse, if_pos (by decide)], response501_not_contentLengthExact,
    response413_not_contentLengthExact, response503_not_contentLengthExact⟩

theorem response404_close : advertisesClose response404 = true ∧
    advertisesKeepAlive response404 = false := ⟨by decide, by decide⟩

set_option maxRecDepth 2000 in
theorem response500_close : advertisesClose response500 = true ∧
    advertisesKeepAlive response500 = false := ⟨by decide, by decide⟩

theorem response501_close : advertisesClose response501 = true ∧
    advertisesKeepAlive response501 = false := ⟨by decide, by decide⟩

set_option maxRecDepth 2000 in
theorem response413_close : advertisesClose response413 = true ∧
    advertisesKeepAlive response413 = false := ⟨by decide, by decide⟩

@[simp] theorem errorReply_keepAlive (msg : List UInt8) (ok : Bool) :
    (errorReply msg ok).keepAlive = false := rfl

/-! ### The keep-alive decision -/

/-- Every reply advertises keep-alive exactly when it sets `keep_alive`. -/
theorem buildResponse_advertises (request : List UInt8) (env : Collaborators) {r : List UInt8}
    (built : (buildResponse request env).response = some r) :
    advertisesKeepAlive r = (buildResponse request env).keepAlive := by
  rcases buildResponse_cases request env with ⟨msg, known, error⟩ | ⟨-, -, file, body, -, -, -, ok⟩
  · rw [error] at built ⊢
    have literal : msg = r := by cases strdup : env.strdupOk <;> simp_all [errorReply]
    subst literal
    rw [errorReply_keepAlive]
    rcases known with ⟨-, rfl⟩ | rfl | rfl
    exacts [response501_close.2, response404_close.2, response500_close.2]
  · rw [ok] at built ⊢
    simp only [okReply, Option.some.injEq] at built
    rw [← built]
    exact advertisesKeepAlive_ok (contentType_mem _) _ _ _

/-- Every response built for a `GET ` request is exactly framed: the 200 response for every
file, and the 404 and 500 literals. -/
theorem buildResponse_get_contentLengthExact {request : List UInt8} (env : Collaborators)
    (get : strncmpEq request (bytesOf "GET ") 4 = true) {r : List UInt8}
    (built : (buildResponse request env).response = some r) : contentLengthExact r = true := by
  rcases buildResponse_cases request env with ⟨msg, known, error⟩ | ⟨-, -, file, body, -, -, -, ok⟩
  · rw [error] at built
    have literal : msg = r := by cases strdup : env.strdupOk <;> simp_all [errorReply]
    subst literal
    rcases known with ⟨notGet, -⟩ | rfl | rfl
    · simp [get] at notGet
    · exact response404_contentLengthExact
    · exact response500_contentLengthExact
  · rw [ok] at built
    simp only [okReply, Option.some.injEq] at built
    rw [← built]
    exact okHeader_contentLengthExact (contentType_mem _) _ _

theorem index_contentLengthExact :
    strncmpEq (bytesOf "GET / HTTP/1.1\r\n\r\n") (bytesOf "GET ") 4 = true ∧
      (buildResponse (bytesOf "GET / HTTP/1.1\r\n\r\n") ⟨fun _ => some ⟨2, some [123, 125]⟩, true, true⟩).response =
        some (okHeader (bytesOf "text/html") 2 false ++ [123, 125]) ∧
      contentLengthExact (okHeader (bytesOf "text/html") 2 false ++ [123, 125]) = true := by
  have get : strncmpEq (bytesOf "GET / HTTP/1.1\r\n\r\n") (bytesOf "GET ") 4 = true := by decide
  have built : (buildResponse (bytesOf "GET / HTTP/1.1\r\n\r\n")
      ⟨fun _ => some ⟨2, some [123, 125]⟩, true, true⟩).response =
        some (okHeader (bytesOf "text/html") 2 false ++ [123, 125]) := by decide
  exact ⟨get, built, buildResponse_get_contentLengthExact _ get built⟩

/-- `keep_alive` ends up set exactly for a `GET ` request that carries the keep-alive marker
(before its first NUL) and whose file opened, was allocated for and was read whole, and then the
response is the 200 reply with the whole file after its header. -/
theorem buildResponse_keepAlive_iff (request : List UInt8) (env : Collaborators) :
    (buildResponse request env).keepAlive = true ↔
      strncmpEq request (bytesOf "GET ") 4 = true ∧ strstr request keepAliveMarker = true ∧
        env.mallocOk = true ∧ ∃ file body, env.docRoot (fullPath (requestPath request)) = some file ∧
          file.contents = some body ∧ body.length = file.size ∧
          (buildResponse request env).response =
            some (okHeader (contentType (requestPath request)) body.length true ++ body) := by
  constructor
  · intro kept
    rcases buildResponse_cases request env with ⟨msg, -, error⟩ | ⟨get, malloc, file, body, served⟩
    · simp [error, errorReply] at kept
    · obtain ⟨opened, read, whole, ok⟩ := served
      have marker : strstr request keepAliveMarker = true := by rwa [ok] at kept
      exact ⟨get, marker, malloc, file, body, opened, read, whole, by rw [ok, marker]; rfl⟩
  · rintro ⟨get, marker, malloc, file, body, opened, read, whole, -⟩
    unfold requestPath at opened
    unfold keepAliveMarker at marker
    simp [buildResponse, get, malloc, opened, read, whole, marker]

/-! ### The content type against the spec's suffix table -/

/-- Specification: the spec's suffix table, from an extension to its label. -/
def suffixLabel (ext : List UInt8) : List UInt8 :=
  if ext = bytesOf "html" ∨ ext = bytesOf "htm" then bytesOf "text/html"
  else if ext = bytesOf "css" then bytesOf "text/css"
  else if ext = bytesOf "js" then bytesOf "application/javascript"
  else if ext = bytesOf "jpg" ∨ ext = bytesOf "jpeg" then bytesOf "image/jpeg"
  else if ext = bytesOf "png" then bytesOf "image/png"
  else if ext = bytesOf "gif" then bytesOf "image/gif"
  else if ext = bytesOf "txt" then bytesOf "text/plain"
  else bytesOf "application/octet-stream"

/-- Specification: the final extension of a path, the bytes after the last `.` of its last
segment; none when that segment has no `.`. -/
def finalExtension (path : List UInt8) : Option (List UInt8) :=
  let segment := (path.reverse.takeWhile (· != 47)).reverse
  if 46 ∈ segment then some (segment.reverse.takeWhile (· != 46)).reverse else none

/-- Specification: the label the suffix table gives a path's final extension, and
`application/octet-stream` for any other extension or none. -/
def specContentType (path : List UInt8) : List UInt8 :=
  match finalExtension path with
  | some ext => suffixLabel ext
  | none => bytesOf "application/octet-stream"

/-- A `.json` file is served as `application/javascript`: `strstr` finds `.js` inside `.json`,
while the suffix table has no entry for `json`. -/
theorem json_served_as_javascript (body : List UInt8) :
    buildResponse (bytesOf "GET /data.json HTTP/1.1\r\n\r\n")
        ⟨fun _ => some ⟨body.length, some body⟩, true, true⟩ =
      okReply (bytesOf "application/javascript") body false ∧
    specContentType (bytesOf "/data.json") = bytesOf "application/octet-stream" := by
  have get : strncmpEq (bytesOf "GET /data.json HTTP/1.1\r\n\r\n") (bytesOf "GET ") 4 = true := by
    decide
  have path : defaultPath (scanPath (bytesOf "GET /data.json HTTP/1.1\r\n\r\n")) =
      bytesOf "/data.json" := by decide
  have marker : strstr (bytesOf "GET /data.json HTTP/1.1\r\n\r\n") keepAliveMarker = false := by
    decide
  have javascript : contentType (bytesOf "/data.json") = bytesOf "application/javascript" := by decide
  refine ⟨?_, by decide⟩
  unfold keepAliveMarker at marker
  simp [buildResponse, get, path, marker, javascript, okReply]

end EpollWebServer
