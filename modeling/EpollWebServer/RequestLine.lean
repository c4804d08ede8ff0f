import EpollWebServer.Safety

/-!
**The request line: which file a request names, and why the path buffers never overflow.**

`process_http_request` reads the path with `sscanf (conn->buffer, "GET %s", path)`. It skips
the blanks after `GET` and copies the next run of non-blank bytes into `char path[BUFFER_SIZE]`.
`%s` carries no width. It then prints `./www` and the path into `char full_path[BUFFER_SIZE]` with
`snprintf`, which cuts what does not fit. The path is used as it stands: `/` becomes
`/index.html`, and nothing else is rewritten, `..` segments included.

* `scanPath_requestLine`: `sscanf` reads back exactly the token a request line names.
* `requestLine_served`: a request `GET p ...` is answered from the file `./www` followed by `p`
  (`./www/index.html` for `/`). A missing file gets the 404. A file read whole gets the 200
  reply with its bytes.
* `scanPath_length_le_of_complete`: on a buffer that ends in NUL, a `GET ` request that the
  terminator search finds complete names a path of at most `BUFFER_SIZE - 6` bytes. A longer
  path would fill the buffer, and the request would then hold no CR for the search to find.
* `reachable_pathFits`: so in every running state, the request the loop hands to
  `process_http_request` never overflows `path` and is never cut by `snprintf`.
-/

namespace EpollWebServer

/-! ### What `sscanf` reads -/

/-- Skipping blanks stops at the first byte that is not one. -/
theorem dropWhile_isspace_append {blanks rest : List UInt8} (spaced : ∀ b ∈ blanks, isspace b = true)
    (start : ∀ b ∈ rest.head?, isspace b = false) : (blanks ++ rest).dropWhile isspace = rest := by
  rw [List.dropWhile_append_of_pos spaced]
  cases rest with
  | nil => rfl
  | cons b rest => simp [List.dropWhile_cons, start b rfl]

/-- Reading a token stops at the first blank after it. -/
theorem takeWhile_token_append {token rest : List UInt8} (inToken : ∀ b ∈ token, isspace b = false)
    (ends : ∀ b ∈ rest.head?, isspace b = true) :
    (token ++ rest).takeWhile (fun b => !isspace b) = token := by
  rw [List.takeWhile_append_of_pos (by simpa using inToken)]
  cases rest with
  | nil => simp
  | cons b rest => simp [List.takeWhile_cons, ends b rfl]

/-- **`sscanf` reads back the token of a request line.** After `GET` and any run of blanks, a
non-empty token ended by a blank or by the end of the string is what lands in `path`. -/
theorem scanPath_requestLine {blanks token rest : List UInt8} (spaced : ∀ b ∈ blanks, isspace b = true)
    (inToken : ∀ b ∈ token, isspace b = false) (nonempty : token ≠ [])
    (ends : ∀ b ∈ rest.head?, isspace b = true) :
    scanPath (bytesOf "GET" ++ blanks ++ token ++ rest) = token := by
  obtain ⟨first, later, rfl⟩ := List.exists_cons_of_ne_nil nonempty
  have dropped : (bytesOf "GET" ++ blanks ++ (first :: later) ++ rest).drop 3 =
      blanks ++ ((first :: later) ++ rest) := by
    rw [List.append_assoc, List.append_assoc, List.drop_left' (show (bytesOf "GET").length = 3 from rfl)]
  unfold scanPath
  rw [dropped, dropWhile_isspace_append spaced (by simpa using inToken first (List.mem_cons_self _ _)),
    takeWhile_token_append inToken ends]

/-- Every byte of the path is a non-blank. -/
theorem scanPath_token (request : List UInt8) : ∀ b ∈ scanPath request, isspace b = false :=
  fun b member => by simpa using List.mem_takeWhile_imp member

/-- The path of a `GET ` request lies in the request past those four bytes. -/
theorem scanPath_within {request : List UInt8} (get : request.take 4 = bytesOf "GET ") :
    scanPath request <:+: request.drop 4 := by
  have split : request.drop 3 = 32 :: request.drop 4 := by
    conv_lhs => rw [← List.take_append_drop 4 request, get]
    rfl
  unfold scanPath
  rw [split, List.dropWhile_cons_of_pos (by decide)]
  exact (List.takeWhile_prefix _).isInfix.trans (List.dropWhile_suffix _).isInfix

/-- A `GET ` request, as `strncmp` sees it, starts with those four bytes. -/
theorem take_four_of_strncmpEq {request : List UInt8} (noNul : ∀ b ∈ request, b ≠ 0)
    (get : strncmpEq request (bytesOf "GET ") 4 = true) : request.take 4 = bytesOf "GET " := by
  simpa [strncmpEq, cstr_eq_self noNul, cstr_eq_self (by decide : ∀ b ∈ bytesOf "GET ", b ≠ 0)]
    using get

/-! ### Which file a request opens -/

theorem defaultPath_length_le {path : List UInt8} (short : path.length ≤ bufferSize - 6) :
    (defaultPath path).length ≤ bufferSize - 6 := by
  unfold defaultPath
  split
  · decide
  · exact short

/-- A path of at most `BUFFER_SIZE - 6` bytes fits `full_path` behind `./www`. -/
theorem fullPath_of_length_le {path : List UInt8} (short : path.length ≤ bufferSize - 6) :
    fullPath path = webRoot ++ path :=
  List.take_of_length_le (by
    rw [List.length_append, show webRoot.length = 5 from rfl]; unfold bufferSize at *; omega)

/-- **A request `GET p ...` is answered from `./www` followed by `p`.** For a non-empty token `p`
of at most `BUFFER_SIZE - 6` bytes, ended by a blank or the end of the request, the server
resolves the path `p` (`/index.html` for `/`) and opens `./www` followed by it. No `..` segment
or other part of `p` is rewritten. A missing file gets the 404. A file that opened, was allocated
for and was read whole gets the 200 reply with its bytes and the content type of the path. -/
theorem requestLine_served {path rest : List UInt8} (inToken : ∀ b ∈ path, isspace b = false)
    (nonempty : path ≠ []) (ends : ∀ b ∈ rest.head?, isspace b = true)
    (short : path.length ≤ bufferSize - 6) (env : Collaborators) :
    requestPath (bytesOf "GET " ++ path ++ rest) = defaultPath path ∧
      (env.docRoot (webRoot ++ defaultPath path) = none →
        buildResponse (bytesOf "GET " ++ path ++ rest) env = errorReply response404 env.strdupOk) ∧
      (∀ file body, env.docRoot (webRoot ++ defaultPath path) = some file → env.mallocOk = true →
        file.contents = some body → body.length = file.size →
        buildResponse (bytesOf "GET " ++ path ++ rest) env =
          okReply (contentType (defaultPath path)) body
            (strstr (bytesOf "GET " ++ path ++ rest) keepAliveMarker)) := by
  have scanned : scanPath (bytesOf "GET " ++ (path ++ rest)) = path := by
    simpa using scanPath_requestLine (by decide : ∀ b ∈ ([32] : List UInt8), isspace b = true) inToken
      nonempty ends
  have get : strncmpEq (bytesOf "GET " ++ (path ++ rest)) (bytesOf "GET ") 4 = true := by
    rw [strncmpEq, cstr, List.takeWhile_append_of_pos (by decide),
      List.take_left' (show (bytesOf "GET ").length = 4 from rfl)]
    decide
  have resolved := fullPath_of_length_le (defaultPath_length_le short)
  simp only [List.append_assoc]
  refine ⟨by rw [requestPath, scanned], fun missing => ?_, fun file body opened malloc read whole => ?_⟩
  · simp [buildResponse, get, scanned, resolved, missing]
  · simp [buildResponse, get, scanned, resolved, opened, malloc, read, whole, okReply, keepAliveMarker]

theorem root_requestLine : requestPath (bytesOf "GET / HTTP/1.1\r\n\r\n") = bytesOf "/index.html" :=
  (requestLine_served (by decide : ∀ b ∈ bytesOf "/", isspace b = false) (by decide)
    (by decide : ∀ b ∈ (bytesOf " HTTP/1.1\r\n\r\n").head?, isspace b = true) (by decide)
    ⟨fun _ => none, true, true⟩).1

/-! ### The path buffers -/

/-- **A complete `GET ` request names a path of at most `BUFFER_SIZE - 6` bytes.** Take a slot
whose buffer ends in NUL, with a `GET ` request that the terminator search finds complete. A path
of `BUFFER_SIZE - 5` bytes or more would need the request to fill all `BUFFER_SIZE - 1` bytes
before the NUL, as `GET ` and the path alone. The search would then read just those bytes, and
they hold no CR. -/
theorem scanPath_length_le_of_complete {c : Connection} (ok : BufferOk c)
    (complete : strstr c.buffer headerEnd = true)
    (get : strncmpEq (cstr c.terminate.buffer) (bytesOf "GET ") 4 = true) :
    (scanPath (cstr c.terminate.buffer)).length ≤ bufferSize - 6 := by
  have usedLe := ok.used_le
  have inRequest : cstr c.terminate.buffer <+: c.buffer.take c.bufferUsed := by
    rw [cstr_terminate c (by unfold bufferSize at *; omega)]
    exact cstr_prefix_self _
  have start := take_four_of_strncmpEq (cstr_noNul _) get
  have pathIn := scanPath_within start
  have requestLe := inRequest.length_le
  have pathLe := pathIn.length_le
  simp only [List.length_take, List.length_drop, c.length_buffer] at requestLe pathLe
  by_contra long
  -- the path is all of the request past `GET `, and the request all of the buffer before the NUL
  have whole : scanPath (cstr c.terminate.buffer) = (cstr c.terminate.buffer).drop 4 :=
    pathIn.eq_of_length (by simp only [List.length_drop]; unfold bufferSize at *; omega)
  have filled : cstr c.terminate.buffer = c.buffer.take (bufferSize - 1) := by
    have used : c.bufferUsed = bufferSize - 1 := by unfold bufferSize at *; omega
    rw [← used]
    exact inRequest.eq_of_length (by rw [List.length_take, c.length_buffer]; unfold bufferSize at *; omega)
  -- so the search reads only the request
  have searched : cstr c.buffer <+: cstr c.terminate.buffer := by
    rw [filled]
    exact List.prefix_take_iff.mpr ⟨cstr_prefix_self _, ok.cstr_length_le⟩
  have found := (strstr_iff (by decide)).mp complete
  have cr : (13 : UInt8) ∈ cstr c.terminate.buffer :=
    searched.subset (found.subset (by decide : (13 : UInt8) ∈ headerEnd))
  rw [← List.take_append_drop 4 (cstr c.terminate.buffer), start, ← whole, List.mem_append] at cr
  rcases cr with inGet | inPath
  · exact absurd inGet (by decide)
  · exact absurd (scanPath_token _ 13 inPath) (by decide)

/-- **The path buffers never overflow or truncate.** In every running state the loop reaches, take
a `recv` on any slot that stays inside the buffer, after which the terminator search finds the
request complete. If the request is a `GET `, the path `sscanf` copies fits `path` with its NUL,
and `snprintf` prints `./www` and the resolved path into `full_path` without cutting it. -/
theorem reachable_pathFits {w : World} (reachable : Reachable w) (running : w.running = true)
    {i : Slot} {bytes : List UInt8} (fits : bytes.length ≤ bufferSize - (w.connections i).bufferUsed - 1)
    (complete : strstr ((w.connections i).receive bytes).buffer headerEnd = true)
    (get : strncmpEq (cstr ((w.connections i).receive bytes).terminate.buffer) (bytesOf "GET ") 4 = true) :
    (scanPath (cstr ((w.connections i).receive bytes).terminate.buffer)).length < bufferSize ∧
      fullPath (requestPath (cstr ((w.connections i).receive bytes).terminate.buffer)) =
        webRoot ++ requestPath (cstr ((w.connections i).receive bytes).terminate.buffer) := by
  have short := scanPath_length_le_of_complete (((reachable.inv running).buffers i).receive fits)
    complete get
  exact ⟨by unfold bufferSize at *; omega, fullPath_of_length_le (defaultPath_length_le short)⟩

theorem firstRequest_pathFits :
    let c := (World.initial.connections 0).receive (bytesOf "GET / HTTP/1.1\r\n\r\n")
    (scanPath (cstr c.terminate.buffer)).length < bufferSize ∧
      fullPath (requestPath (cstr c.terminate.buffer)) = webRoot ++ requestPath (cstr c.terminate.buffer) :=
  reachable_pathFits .initial rfl (by decide) (by decide) (by decide)

/-! ### The content type against the suffix table -/

/-- The extensions the `strstr` chain of `process_http_request` looks for. -/
def extensionNeedles : List (List UInt8) :=
  [bytesOf ".html", bytesOf ".htm", bytesOf ".css", bytesOf ".js", bytesOf ".jpg", bytesOf ".jpeg",
    bytesOf ".png", bytesOf ".gif", bytesOf ".txt"]

/-- The label depends on the path only through which of the extensions `strstr` finds. -/
theorem contentType_congr {p q : List UInt8}
    (same : ∀ n ∈ extensionNeedles, strstr p n = strstr q n) : contentType p = contentType q := by
  unfold contentType
  simp (disch := simp [extensionNeedles]) only [same]

/-- A prefix with no `a` of a list with `a` after `stem` is a prefix of `stem`. -/
theorem prefix_of_prefix_append_cons {a : UInt8} :
    ∀ {r stem t : List UInt8}, r <+: stem ++ a :: t → a ∉ r → r <+: stem
  | [], _, _, _, _ => List.nil_prefix
  | x :: r, [], t, before, absent => by
    obtain ⟨rfl, -⟩ := List.cons_prefix_cons.mp before
    simp at absent
  | x :: r, y :: stem, t, before, absent => by
    obtain ⟨rfl, rest⟩ := List.cons_prefix_cons.mp before
    exact List.cons_prefix_cons.mpr ⟨rfl, prefix_of_prefix_append_cons rest fun m => absent (.tail _ m)⟩

/-- A needle whose only dot is its first byte occurs in `stem . ext`, with no dot in `ext`,
exactly when it occurs in `stem` or starts `. ext`. -/
theorem dot_infix_append_iff {stem ext r : List UInt8} (rPlain : 46 ∉ r) (extPlain : 46 ∉ ext) :
    46 :: r <:+: stem ++ 46 :: ext ↔ 46 :: r <:+: stem ∨ 46 :: r <+: 46 :: ext := by
  induction stem with
  | nil =>
    rw [List.nil_append, List.infix_cons_iff]
    refine ⟨fun found => ?_, fun found => ?_⟩
    · rcases found with atDot | inExt
      · exact .inr atDot
      · exact absurd (inExt.subset (List.mem_cons_self _ _)) extPlain
    · rcases found with inStem | atDot
      · exact absurd inStem (by simp [List.infix_nil])
      · exact .inl atDot
  | cons x stem ih =>
    have here : 46 :: r <+: x :: (stem ++ 46 :: ext) ↔ 46 :: r <+: x :: stem := by
      simp only [List.cons_prefix_cons]
      exact and_congr_right fun _ => ⟨fun before => prefix_of_prefix_append_cons before rPlain,
        fun before => before.trans (List.prefix_append _ _)⟩
    rw [List.cons_append, List.infix_cons_iff, here, ih, List.infix_cons_iff, or_assoc]

/-- The search for an extension in `stem . ext` is the search in `. ext`, when `stem` does not
hold it. -/
theorem strstr_dotted {stem ext : List UInt8} (noNul : ∀ b ∈ stem, b ≠ 0)
    (extPlain : ∀ b ∈ ext, b ≠ 0 ∧ b ≠ 46) {n : List UInt8} (needle : n ∈ extensionNeedles)
    (absent : ¬ n <:+: stem) : strstr (stem ++ 46 :: ext) n = strstr (46 :: ext) n := by
  have shapes : ∀ n ∈ extensionNeedles, n.head? = some 46 ∧ 46 ∉ n.tail ∧ ∀ b ∈ n, b ≠ 0 := by
    decide
  obtain ⟨dotted, rPlain, needleClean⟩ := shapes n needle
  obtain ⟨r, rfl⟩ : ∃ r, n = 46 :: r := by
    cases n with
    | nil => simp at dotted
    | cons x r => exact ⟨r, by simp only [List.head?_cons, Option.some.injEq] at dotted; rw [dotted]⟩
  rw [List.tail_cons] at rPlain
  have extNoDot : 46 ∉ ext := fun m => (extPlain _ m).2 rfl
  have clean : ∀ b ∈ stem ++ 46 :: ext, b ≠ 0 := by
    simp only [List.mem_append, List.mem_cons]
    rintro b (inStem | rfl | inExt)
    exacts [noNul b inStem, by decide, (extPlain b inExt).1]
  rw [strstr, strstr, cstr_eq_self needleClean, cstr_eq_self clean,
    cstr_eq_self fun b m => (clean b (List.mem_append_right _ m))]
  have alone : 46 :: r <:+: 46 :: ext ↔ 46 :: r <+: 46 :: ext := by
    simpa using (dot_infix_append_iff rPlain extNoDot : 46 :: r <:+: [] ++ 46 :: ext ↔ _)
  simp only [dot_infix_append_iff rPlain extNoDot, absent, false_or, alone]

/-- The final extension of `stem . ext` is `ext`, for an `ext` with no dot or slash. -/
theorem finalExtension_dotted (stem : List UInt8) {ext : List UInt8}
    (extPlain : ∀ b ∈ ext, b ≠ 46 ∧ b ≠ 47) : finalExtension (stem ++ 46 :: ext) = some ext := by
  have segment : (stem ++ 46 :: ext).reverse.takeWhile (· != 47) =
      ext.reverse ++ 46 :: stem.reverse.takeWhile (· != 47) := by
    rw [List.reverse_append, List.reverse_cons, List.append_assoc,
      List.takeWhile_append_of_pos (by simpa using fun b m => (extPlain b m).2)]
    rfl
  have extension : (ext.reverse ++ 46 :: stem.reverse.takeWhile (· != 47)).takeWhile (· != 46) =
      ext.reverse := by
    rw [List.takeWhile_append_of_pos (by simpa using fun b m => (extPlain b m).1)]
    simp
  unfold finalExtension
  simp only [segment, List.reverse_reverse, extension, List.mem_reverse, List.mem_append,
    List.mem_cons, true_or, or_true, if_true]

/-- **On a path whose listed extension comes only at its final dot, the `strstr` chain agrees
with the suffix table.** Take a path `stem . ext` where `ext` is an entry of the spec's table and
no extension of the `strstr` chain occurs in `stem`. Then `process_http_request` labels it as the
table does. `stem` may hold other dots and slashes (`/js/jquery.min . js`). What breaks the
agreement is an extension found before the final one, or a final extension outside the table that
holds a listed one (`.json`). -/
theorem contentType_agrees {stem ext : List UInt8} (noNul : ∀ b ∈ stem, b ≠ 0)
    (unlisted : ∀ n ∈ extensionNeedles, ¬ n <:+: stem)
    (listed : suffixLabel ext ≠ bytesOf "application/octet-stream") :
    contentType (stem ++ 46 :: ext) = specContentType (stem ++ 46 :: ext) := by
  have entries : ∀ e ∈ [bytesOf "html", bytesOf "htm", bytesOf "css", bytesOf "js", bytesOf "jpg",
      bytesOf "jpeg", bytesOf "png", bytesOf "gif", bytesOf "txt"],
      (∀ b ∈ e, b ≠ 0 ∧ b ≠ 46 ∧ b ≠ 47) ∧ contentType (46 :: e) = suffixLabel e := by
    decide
  have entry : ext ∈ [bytesOf "html", bytesOf "htm", bytesOf "css", bytesOf "js", bytesOf "jpg",
      bytesOf "jpeg", bytesOf "png", bytesOf "gif", bytesOf "txt"] := by
    by_contra outside
    simp only [List.mem_cons, List.not_mem_nil, or_false, not_or] at outside
    exact listed (by simp [suffixLabel, outside])
  obtain ⟨plain, label⟩ := entries ext entry
  rw [contentType_congr fun n needle => strstr_dotted noNul (fun b m => ⟨(plain b m).1, (plain b m).2.1⟩)
    needle (unlisted n needle), label, specContentType,
    finalExtension_dotted stem fun b m => (plain b m).2]

theorem minifiedScript_agrees :
    contentType (bytesOf "/js/jquery.min" ++ 46 :: bytesOf "js") =
      specContentType (bytesOf "/js/jquery.min" ++ 46 :: bytesOf "js") :=
  contentType_agrees (by decide) (by decide) (by decide)

end EpollWebServer
