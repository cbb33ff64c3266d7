import DecompilerBridge.Proofs.Shell.ModuleLookup
import DecompilerBridge.Proofs.Shell.PipeStep
import DecompilerBridge.Proofs.Text.Lossy

/-!
# Reading files and replies

Bytes come from outside in two ways. The file of a module is read as a whole, and the replies of
radare2 are cut from one stream at the NULs. Both become texts by the same decoding (`ReadsAs`),
which keeps valid text and all ASCII (`lossy_reading_keeps`).

Replies are read until there is none (`Drains`). One call takes a piece of the stream and the NUL
after it (`readReply_terminated`), or the end of the stream if it is not empty
(`readReply_unterminated`); so all calls together take the stream apart at its NULs
(`replies_cut_at_nul`), and no reply is lost, split or put together with another.
-/

set_option autoImplicit false

namespace DecompilerBridge.Shell

open Text

/-! ## Single replies -/

/-- There is no reply at the end of the stream, and nowhere else. -/
theorem readReply_eq_none_iff {stream : List UInt8} : readReply stream = none ↔ stream = [] := by
  cases stream <;> simp [readReply]

/-- A reply that the end of the stream ends is read as a whole. -/
theorem readReply_unterminated {reply : List UInt8} (free : 0 ∉ reply) (some : reply ≠ []) :
    readReply reply = .some (ofBytes reply, []) := by
  have cut := cutReply_append free []
  rw [List.append_nil] at cut
  rw [readReply_of_ne_nil some, cut]
  simp [cutReply]

/-! ## The text of bytes -/

/-- Bytes are read as a text, wherever they come from. -/
structure ReadsAs (bytes : List UInt8) (text : String) : Prop where
  /-- As a file that is not empty. -/
  file : ∀ (r : Resolver) (kind : ModuleKind) (name dir : String), r.directory = some dir →
    r.files.read (Path.join dir (kind.fileName name)) = .ok bytes → bytes ≠ [] →
    (r.read kind name).1 = .ok ⟨kind.fileName name, Path.join dir (kind.fileName name), text⟩
  /-- As a reply with its NUL. -/
  reply : 0 ∉ bytes → ∀ rest, readReply (bytes ++ 0 :: rest) = some (text, rest)
  /-- As a reply that the end of the stream ends. -/
  lastReply : 0 ∉ bytes → bytes ≠ [] → readReply bytes = some (text, [])

/-- Lossy reading replaces what is no text, and nothing else. -/
theorem readsAs_ofBytes (bytes : List UInt8) : ReadsAs bytes (ofBytes bytes) where
  file _ _ _ _ base file some := Resolver.read_of_file base file some
  reply free rest := readReply_terminated free rest
  lastReply free some := readReply_unterminated free some

/-- Lossy reading keeps valid text and all ASCII. A text in front of any bytes is read as that text,
so a file or a reply that holds nothing else is read exactly; it is kept also behind other bytes. Of
any bytes, valid or not, the ASCII characters that are read are the ASCII bytes, in order, and what
was read once is read unchanged from then on. -/
theorem lossy_reading_keeps (s : String) (bytes : List UInt8) :
    ofBytes (utf8 s ++ bytes) = s ++ ofBytes bytes ∧
      (∀ before, s ≠ "" →
        ofBytes (before ++ utf8 s ++ bytes) = ofBytes before ++ s ++ ofBytes bytes) ∧
      ReadsAs (utf8 s) s ∧ ReadsAs bytes (ofBytes bytes) ∧
      (ofBytes bytes).toList.filter (·.toNat < 0x80) =
        (bytes.filter (·.toNat < 0x80)).map (fun b => Char.ofNat b.toNat) ∧
      ofBytes (utf8 (ofBytes bytes)) = ofBytes bytes := by
  refine ⟨?_, fun before some => ?_, ?_, readsAs_ofBytes bytes, ?_, ofBytes_utf8 _⟩
  · rw [ofBytes, utf8, decode_encodeChars_append, String.ofList_append, String.ofList_toList]
    rfl
  · have chars : s.toList ≠ [] := mt String.toList_eq_nil_iff.1 some
    rw [ofBytes, utf8, decode_around chars, String.ofList_append, String.ofList_append,
      String.ofList_toList]
    rfl
  · have read := readsAs_ofBytes (utf8 s)
    rwa [ofBytes_utf8] at read
  · rw [ofBytes, String.toList_ofList, decode_ascii]
    rfl

/-- A character that is cut off is replaced, and neither the text before it nor the byte that cuts
it off is lost. The text alone is what a file or a reply holds. -/
theorem lossy_reading_keeps_cut :
    let bytes : List UInt8 := [0xE2, 0x82, 0x62]
    let r : Resolver :=
      { base := .fixed "/pkg"
        files := { members := [("pkg", .directory [("a.js", .file (utf8 "né"))])] } }
    ofBytes (utf8 "né" ++ bytes) = "né\uFFFDb" ∧ ofBytes (bytes ++ utf8 "né" ++ bytes) =
        "\uFFFDbné\uFFFDb" ∧
      (r.read .require "a").1 = .ok ⟨"a.js", "/pkg/a.js", "né"⟩ ∧
      readReply (utf8 "né" ++ 0 :: bytes) = some ("né", bytes) ∧
      readReply (utf8 "né") = some ("né", []) := by
  intro bytes r
  obtain ⟨front, around, exact, -⟩ := lossy_reading_keeps "né" bytes
  have read : ofBytes bytes = "\uFFFDb" := by decide +kernel
  have free : 0 ∉ utf8 "né" := by decide +kernel
  have some : utf8 "né" ≠ [] := by decide +kernel
  rw [read] at front
  have both := around bytes (by decide)
  rw [read] at both
  refine ⟨front, both, ?_, exact.reply free bytes, exact.lastReply free some⟩
  have file : (r.files.read (Path.join "/pkg" "a.js")).toOption = .some (utf8 "né") := by
    decide +kernel
  refine exact.file r .require "a" "/pkg" rfl ?_ some
  cases found : r.files.read (Path.join "/pkg" "a.js") <;> rw [found] at file <;> cases file
  exact found

/-! ## All replies of a stream -/

/-- A reply as it was read: the bytes taken off the stream for it, and its text. -/
structure TakenReply where
  taken : List UInt8
  text : String
deriving DecidableEq, Repr

namespace TakenReply

/-- A reply that a NUL ends. -/
def terminated (reply : List UInt8) : TakenReply := ⟨reply ++ [0], ofBytes reply⟩

/-- A reply that the end of the stream ends, if there is something left. -/
def unterminated (reply : List UInt8) : List TakenReply :=
  if reply = [] then [] else [⟨reply, ofBytes reply⟩]

end TakenReply

/-- Replies are read from a stream until one cannot be read. -/
inductive Drains : List UInt8 → List TakenReply → Prop where
  | ended {stream : List UInt8} : readReply stream = none → Drains stream []
  | reply {taken rest : List UInt8} {text : String} {replies : List TakenReply} :
      readReply (taken ++ rest) = some (text, rest) → Drains rest replies →
      Drains (taken ++ rest) (⟨taken, text⟩ :: replies)

namespace Drains

variable {stream : List UInt8} {replies others : List TakenReply}

/-- The calls take the stream as a whole. -/
theorem taken_flatten (drains : Drains stream replies) :
    (replies.map TakenReply.taken).flatten = stream := by
  induction drains with
  | ended none => exact (readReply_eq_none_iff.1 none).symm
  | reply _ _ ih => rw [List.map_cons, List.flatten_cons, ih]

/-- A stream gives its replies in one way. -/
theorem unique (drains : Drains stream replies) (also : Drains stream others) :
    replies = others := by
  induction drains generalizing others with
  | ended none =>
    cases also with
    | ended _ => rfl
    | reply read _ =>
      rw [none] at read
      cases read
  | @reply taken rest text replies read _ ih =>
    generalize whole : taken ++ rest = stream at also read
    cases also with
    | ended none =>
      rw [none] at read
      cases read
    | reply readAlso more =>
      rw [readAlso] at read
      obtain ⟨rfl, rfl⟩ := Prod.mk.inj (Option.some.inj read)
      rw [List.append_cancel_right whole, ih more]

/-- Pieces that NULs end and a last one are read one by one. -/
theorem of_pieces {pieces : List (List UInt8)} {last : List UInt8}
    (free : ∀ piece ∈ pieces, 0 ∉ piece) (freeLast : 0 ∉ last) :
    Drains (pieces.flatMap (· ++ [0]) ++ last)
      (pieces.map .terminated ++ TakenReply.unterminated last) := by
  induction pieces with
  | nil =>
    simp only [List.flatMap_nil, List.map_nil, List.nil_append, TakenReply.unterminated]
    by_cases empty : last = []
    · rw [if_pos empty]
      exact .ended (readReply_eq_none_iff.2 empty)
    · rw [if_neg empty]
      have read : readReply (last ++ []) = some (ofBytes last, []) := by
        rw [List.append_nil]
        exact readReply_unterminated freeLast empty
      have drains := Drains.reply read (.ended rfl)
      rwa [List.append_nil] at drains
  | cons piece more ih =>
    rw [List.forall_mem_cons] at free
    rw [List.flatMap_cons, List.map_cons, List.append_assoc, List.cons_append]
    refine .reply ?_ (ih free.2)
    rw [List.append_assoc]
    exact readReply_terminated free.1 _

end Drains

/-- A stream is its pieces with the NULs between them. -/
theorem exists_pieces (stream : List UInt8) : ∃ pieces last,
    stream.splitOn 0 = pieces ++ [last] ∧ (∀ piece ∈ pieces, 0 ∉ piece) ∧ 0 ∉ last ∧
      stream = pieces.flatMap (· ++ [0]) ++ last := by
  induction stream with
  | nil => exact ⟨[], [], rfl, by simp, by simp, rfl⟩
  | cons b rest ih =>
    obtain ⟨pieces, last, split, free, freeLast, whole⟩ := ih
    rw [List.splitOn_cons_eq_if_modifyHead, split]
    by_cases nul : b = 0
    · refine ⟨[] :: pieces, last, ?_, ?_, freeLast, ?_⟩
      · simp [nul]
      · simpa using free
      · simp [nul, ← whole]
    -- any other byte belongs to the first piece, which is the last one if there is no NUL
    · cases pieces with
      | nil =>
        refine ⟨[], b :: last, ?_, by simp, ?_, ?_⟩
        · simp [nul]
        · rw [List.mem_cons, not_or]
          exact ⟨fun same => nul same.symm, freeLast⟩
        · simp [whole]
      | cons piece more =>
        rw [List.forall_mem_cons] at free
        refine ⟨(b :: piece) :: more, last, ?_, ?_, freeLast, ?_⟩
        · simp [nul]
        · rw [List.forall_mem_cons, List.mem_cons, not_or]
          exact ⟨⟨fun same => nul same.symm, free.1⟩, free.2⟩
        · simp [whole]

/-- Replies are cut at the NULs. Whatever the stream is, reading ends, with one reply for every
piece that a NUL ends and one more for what is left at the end, unless nothing is left; each takes
its piece and the NUL, and together they take the whole stream. So replies without NULs that are
sent with one NUL after each are read back as they are, and nothing after them. -/
theorem replies_cut_at_nul (stream : List UInt8) :
    (∃ pieces last, stream.splitOn 0 = pieces ++ [last] ∧
      ∀ replies, Drains stream replies ↔
        replies = pieces.map .terminated ++ TakenReply.unterminated last) ∧
      (∀ replies, Drains stream replies → (replies.map TakenReply.taken).flatten = stream) ∧
      ∀ sent : List (List UInt8), (∀ reply ∈ sent, 0 ∉ reply) → ∀ replies,
        Drains (sent.flatMap (· ++ [0])) replies ↔ replies = sent.map .terminated := by
  refine ⟨?_, fun _ drains => drains.taken_flatten, fun sent free replies => ?_⟩
  · obtain ⟨pieces, last, split, free, freeLast, whole⟩ := exists_pieces stream
    have drains := Drains.of_pieces free freeLast
    rw [← whole] at drains
    exact ⟨pieces, last, split, fun replies =>
      ⟨fun also => also.unique drains, fun same => same ▸ drains⟩⟩
  · have drains := Drains.of_pieces free List.not_mem_nil
    rw [List.append_nil, TakenReply.unterminated, if_pos rfl, List.append_nil] at drains
    exact ⟨fun also => also.unique drains, fun same => same ▸ drains⟩

/-- An empty reply between two NULs is a reply, and so is what is left at the end; a NUL at the end
is not followed by one. -/
theorem replies_cut_at_nul_empty :
    Drains [0x61, 0, 0, 0xFF] [⟨[0x61, 0], "a"⟩, ⟨[0], ""⟩, ⟨[0xFF], "\uFFFD"⟩] ∧
      Drains [0, 0x61, 0] [⟨[0], ""⟩, ⟨[0x61, 0], "a"⟩] := by
  obtain ⟨⟨pieces, last, split, read⟩, -, sent⟩ := replies_cut_at_nul [0x61, 0, 0, 0xFF]
  have cut : [0x61, 0, 0, 0xFF].splitOn 0 = [[0x61], []] ++ [[(0xFF : UInt8)]] := by
    decide +kernel
  obtain ⟨rfl, final⟩ := List.append_inj' (split.symm.trans cut) rfl
  obtain rfl := List.singleton_inj.1 final
  refine ⟨(read _).2 (by decide +kernel), ?_⟩
  exact (sent [[], [0x61]] (by decide) _).2 (by decide +kernel)

end DecompilerBridge.Shell
