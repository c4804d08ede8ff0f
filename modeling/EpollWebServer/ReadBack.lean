import EpollWebServer.Args
import EpollWebServer.Service

/-!
**A client reads a session's responses back.**

The loop writes a keep-alive session's responses to one socket back to back: the socket
receives `answers` (`Service`). A client tells them apart as HTTP/1.1 says. It cuts the stream at
the first CR LF CR LF, reads the header's first `Content-Length` field, takes that many bytes
of body, and goes on with the rest (`readResponse`, `readAll`). That is a statement of what the
framing is for; nothing in the server runs it.

* `Framed`: a response the client reads back whole, whatever follows it on the stream. Stated
  with an arbitrary rest, it composes over concatenation (`readResponses_flatten`).
* `okHeader_framed`, `response404_framed`, `response500_framed`: the 200 response of every file
  and the two error literals a `GET ` request can get are framed (`buildResponse_framed`).
* `answers_readBack`: for every session of `GET ` requests, with any document root and any
  `malloc`, `strdup` and read outcomes, the client reads back exactly the responses in order.
  The 501, 413 and 503 literals are not framed, since their `Content-Length` is off, and a
  client that gets one of them loses its place in the stream.
-/

namespace EpollWebServer

/-! ### The client's reader -/

/-- The bytes after the first occurrence of `needle`. -/
def afterFirst (needle : List UInt8) : List UInt8 → Option (List UInt8)
  | [] => none
  | b :: rest => if needle <+: b :: rest then some ((b :: rest).drop needle.length) else afterFirst needle rest

/-- How an HTTP/1.1 client reads one response off a stream: the header block up to the first
CR LF CR LF, the value of its first `Content-Length` field, and that many bytes of body. It
gives the response and the rest of the stream, or `none` when no whole response is there. -/
def readResponse (stream : List UInt8) : Option (List UInt8 × List UInt8) :=
  match splitHeader stream with
  | none => none
  | some (header, after) =>
    match afterFirst (bytesOf "\r\nContent-Length: ") (header ++ bytesOf "\r\n") with
    | none => none
    | some field =>
      if (atoi field).toNat ≤ after.length then
        some (header ++ headerEnd ++ after.take (atoi field).toNat, after.drop (atoi field).toNat)
      else none

/-- The client reads responses until the stream ends, `fuel` of them at most. -/
def readResponses : Nat → List UInt8 → Option (List (List UInt8))
  | 0, stream => if stream = [] then some [] else none
  | fuel + 1, stream =>
    if stream = [] then some []
    else match readResponse stream with
      | some (r, rest) => (readResponses fuel rest).map (r :: ·)
      | none => none

/-- The client reads the whole stream; every response takes at least one byte. -/
def readAll (stream : List UInt8) : Option (List (List UInt8)) := readResponses stream.length stream

/-- A response the client reads back whole, whatever follows it on the stream. -/
structure Framed (r : List UInt8) : Prop where
  nonempty : r ≠ []
  reads : ∀ rest, readResponse (r ++ rest) = some (r, rest)

/-- Framed responses back to back read back one by one. -/
theorem readResponses_flatten (rs : List (List UInt8)) (framed : ∀ r ∈ rs, Framed r) :
    ∀ fuel, rs.length ≤ fuel → readResponses fuel rs.flatten = some rs := by
  induction rs with
  | nil => intro fuel _; cases fuel <;> rfl
  | cons r rs ih =>
    intro fuel enough
    obtain ⟨fuel, rfl⟩ : ∃ f, fuel = f + 1 := ⟨fuel - 1, by simp at enough; omega⟩
    have head := framed r (List.mem_cons_self _ _)
    have nonempty : r ++ rs.flatten ≠ [] := by simp [head.nonempty]
    rw [List.flatten_cons, readResponses, if_neg nonempty, head.reads]
    simp [ih (fun x member => framed x (List.mem_cons_of_mem _ member)) fuel (by simpa using enough)]

/-! ### Which responses are framed -/

/-- The first occurrence of `needle` is the one after `pre` when none starts inside `pre`. -/
theorem afterFirst_append {needle pre : List UInt8} (nonempty : needle ≠ [])
    (first : ¬ needle <:+: pre ++ needle.dropLast) (post : List UInt8) :
    afterFirst needle (pre ++ needle ++ post) = some post := by
  induction pre with
  | nil =>
    obtain ⟨b, bs, rfl⟩ := List.exists_cons_of_ne_nil nonempty
    simp [afterFirst]
  | cons b rest ih =>
    have longer : b :: rest ++ needle.dropLast <+: b :: (rest ++ needle ++ post) :=
      ⟨[needle.getLast nonempty] ++ post, by
        conv_rhs => rw [← List.dropLast_append_getLast nonempty]
        simp⟩
    have notHere : ¬ needle <+: b :: (rest ++ needle ++ post) := fun here =>
      first (List.prefix_of_prefix_length_le here longer (by simp; omega)).isInfix
    rw [List.cons_append, List.cons_append, afterFirst, if_neg notHere,
      ih fun occurs => first (List.infix_cons occurs)]

/-- A response whose header block ends at its first CR LF CR LF, and whose first
`Content-Length` field gives the body's length, is framed. -/
theorem framed_of_header {header body : List UInt8}
    (split : ∀ after, splitHeader (header ++ headerEnd ++ after) = some (header, after))
    (length : (afterFirst (bytesOf "\r\nContent-Length: ") (header ++ bytesOf "\r\n")).map
      (fun field => (atoi field).toNat) = some body.length) :
    Framed (header ++ headerEnd ++ body) := by
  refine ⟨by simp [headerEnd_bytes], fun rest => ?_⟩
  obtain ⟨field, found, value⟩ := Option.map_eq_some'.mp length
  rw [List.append_assoc (header ++ headerEnd), readResponse, split]
  simp [found, value]

/-- The 200 response of every file is framed. -/
theorem okHeader_framed {contentType : List UInt8} (known : contentType ∈ contentTypes)
    (keepAlive : Bool) (body : List UInt8) :
    Framed (okHeader contentType body.length keepAlive ++ body) := by
  -- the field's value runs up to the CR LF after the printed length
  let tail := bytesOf "\r\nConnection: " ++
    (if keepAlive then bytesOf "keep-alive" else bytesOf "close") ++ bytesOf "\r\n"
  have first : ∀ ct ∈ contentTypes, ¬ bytesOf "\r\nContent-Length: " <:+:
      bytesOf "HTTP/1.1 200 OK\r\nContent-Type: " ++ ct ++ (bytesOf "\r\nContent-Length: ").dropLast := by
    decide
  have field : afterFirst (bytesOf "\r\nContent-Length: ")
      (okBlock contentType body.length keepAlive ++ bytesOf "\r\n") = some (decimal body.length ++ tail) := by
    simpa [okBlock, tail] using afterFirst_append (by decide) (first _ known) (decimal body.length ++ tail)
  have stop : ∀ b ∈ tail.head?, isDigitByte b = false := by
    intro b member
    have head : tail.head? = some 13 := by simp [tail, bytesOf]; rfl
    rw [head, Option.mem_some_iff] at member
    subst member
    decide
  rw [okHeader_eq]
  refine framed_of_header (fun after => by rw [← okHeader_eq]; exact splitHeader_ok known _ _ after) ?_
  rw [field, Option.map_some', atoi_decimal_append _ stop]
  rfl

theorem response404_framed : Framed response404 := by
  have parts : response404 = bytesOf "HTTP/1.1 404 Not Found\r\nContent-Length: 14\r\nConnection: close" ++
      headerEnd ++ bytesOf "File not found" := by decide
  rw [parts]
  exact framed_of_header (splitHeader_append (by decide)) (by decide)

set_option maxRecDepth 2000 in
theorem response500_framed : Framed response500 := by
  have parts : response500 =
      bytesOf "HTTP/1.1 500 Internal Server Error\r\nContent-Length: 21\r\nConnection: close" ++
        headerEnd ++ bytesOf "Internal Server Error" := by decide
  rw [parts]
  exact framed_of_header (splitHeader_append (by decide)) (by decide)

/-- Every response built for a `GET ` request is framed. -/
theorem buildResponse_framed {request : List UInt8} (env : Collaborators)
    (get : strncmpEq request (bytesOf "GET ") 4 = true) {r : List UInt8}
    (built : (buildResponse request env).response = some r) : Framed r := by
  rcases buildResponse_cases request env with ⟨msg, known, error⟩ | ⟨-, -, file, body, -, -, -, ok⟩
  · rw [error] at built
    have literal : msg = r := by cases strdup : env.strdupOk <;> simp_all [errorReply]
    subst literal
    rcases known with ⟨notGet, -⟩ | rfl | rfl
    · simp [get] at notGet
    · exact response404_framed
    · exact response500_framed
  · rw [ok] at built
    simp only [okReply, Option.some.injEq] at built
    rw [← built]
    exact okHeader_framed (contentType_mem _) _ _

/-! ### A session read back -/

/-- The responses of `answers`, one by one. -/
def answerList : List (List UInt8 × Collaborators) → List (List UInt8)
  | [] => []
  | (request, env) :: rest =>
    (buildResponse (cstr request) env).response.toList ++
      if (buildResponse (cstr request) env).keepAlive then answerList rest else []

theorem answers_eq_flatten (exchanges : List (List UInt8 × Collaborators)) :
    answers exchanges = (answerList exchanges).flatten := by
  induction exchanges with
  | nil => rfl
  | cons exchange rest ih =>
    obtain ⟨request, env⟩ := exchange
    simp only [answers, answerList, ih, List.flatten_append]
    cases (buildResponse (cstr request) env).response <;> split <;> simp

theorem answerList_framed {exchanges : List (List UInt8 × Collaborators)}
    (gets : ∀ e ∈ exchanges, strncmpEq e.1 (bytesOf "GET ") 4 = true) :
    ∀ r ∈ answerList exchanges, Framed r := by
  induction exchanges with
  | nil => simp [answerList]
  | cons exchange rest ih =>
    obtain ⟨request, env⟩ := exchange
    have get : strncmpEq (cstr request) (bytesOf "GET ") 4 = true := by
      simpa [strncmpEq, cstr_idem] using gets _ (List.mem_cons_self _ _)
    intro r member
    simp only [answerList, List.mem_append, Option.mem_toList] at member
    rcases member with built | later
    · exact buildResponse_framed env get built
    · split at later
      · exact ih (fun e m => gets e (List.mem_cons_of_mem _ m)) r later
      · simp at later

/-- **A client reads a `GET ` session back, response by response.** For every sequence of
requests that start with `GET `, with any document root and any `malloc`, `strdup` and read
outcomes, a client that cuts the bytes of `answers` by HTTP/1.1's `Content-Length` framing reads
back exactly the responses `process_http_request` built, in order, and nothing else. -/
theorem answers_readBack (exchanges : List (List UInt8 × Collaborators))
    (gets : ∀ e ∈ exchanges, strncmpEq e.1 (bytesOf "GET ") 4 = true) :
    readAll (answers exchanges) = some (answerList exchanges) := by
  have framed := answerList_framed gets
  rw [readAll, answers_eq_flatten]
  refine readResponses_flatten _ framed _ ?_
  -- every response takes at least one byte of the stream
  have bytes := List.length_le_sum_of_one_le ((answerList exchanges).map List.length) fun n member => by
    obtain ⟨r, inList, rfl⟩ := List.mem_map.mp member
    exact List.length_pos.mpr (framed r inList).nonempty
  rwa [List.length_map, ← List.length_flatten] at bytes

/-- A keep-alive request for a two-byte file, then a request for a missing `/index.html`. -/
theorem session_readBack :
    let exchanges : List (List UInt8 × Collaborators) :=
      [(bytesOf "GET /a.txt HTTP/1.1\r\nConnection: keep-alive\r\n\r\n",
          ⟨fun _ => some ⟨2, some [111, 107]⟩, true, true⟩),
        (bytesOf "GET / HTTP/1.1\r\n\r\n", ⟨fun _ => none, true, true⟩)]
    (∀ e ∈ exchanges, strncmpEq e.1 (bytesOf "GET ") 4 = true) ∧
      readAll (answers exchanges) = some (answerList exchanges) :=
  ⟨by decide, answers_readBack _ (by decide)⟩

end EpollWebServer
