import Mathlib.Data.List.TakeWhile
import Scrollback.Permalink
import Scrollback.Proofs.Message.Index
/-!
# Links that lead back

A link to a message names a channel, which may be any text, and an index. Whatever the channel is
called, nothing of its name ends the path of the link before its query does, and the query has the
one pair that gives the index. So the link leads to the message that it was made for.

## Main definitions

* `Url.isPlain` — a character that stands for itself in a pair of a query.
* `Url.staysInPath` — a character that neither ends a path nor is dropped from it.

## Main statements

* `Url.lookup?_pair` — a query of one plain pair is read back.
* `Url.mem_percentEncode` — what an encoded text consists of.
* `Permalink.target?_render` — a link leads to the message that it was made for.
-/

namespace Scrollback

namespace Url

variable {c : Char} {cs : List Char} {bs : List UInt8}

/-! ## Queries -/

/-- A character that stands for itself in the name or the value of a pair. -/
def isPlain (c : Char) : Bool :=
  decide (c.toNat < 0x80) && c ∉ ['%', '+', '&', '=']

/-- The bytes of ASCII text are its characters. -/
theorem utf8Bytes_eq_map (h : ∀ c ∈ cs, c.toNat < 0x80) :
    Text.utf8Bytes cs = cs.map fun c => UInt8.ofNat c.toNat := by
  induction cs with
  | nil => rfl
  | cons c cs ih =>
    obtain ⟨hc, hcs⟩ := List.forall_mem_cons.1 h
    have hle : c.val.toNat ≤ 127 := Nat.le_of_lt_succ hc
    have hbyte : String.utf8EncodeChar c = [UInt8.ofNat c.toNat] := if_pos hle
    rw [Text.utf8Bytes, List.flatMap_cons, hbyte, List.map_cons, ← ih hcs]
    rfl

theorem toNat_ofNat_toNat (h : c.toNat < 0x80) : (UInt8.ofNat c.toNat).toNat = c.toNat :=
  UInt8.toNat_ofNat_of_lt' (Nat.lt_trans h (by decide))

/-- A byte of ASCII text is that of a character only where the text has the character. -/
theorem ofNat_notMem_utf8Bytes {d : Char} (hd : d.toNat < 0x80) (h : ∀ c ∈ cs, c.toNat < 0x80)
    (hne : d ∉ cs) : UInt8.ofNat d.toNat ∉ Text.utf8Bytes cs := by
  rw [utf8Bytes_eq_map h]
  intro hmem
  obtain ⟨c, hc, heq⟩ := List.mem_map.1 hmem
  have htoNat : c.toNat = d.toNat := by
    rw [← toNat_ofNat_toNat (h c hc), heq, toNat_ofNat_toNat hd]
  exact hne (Char.toNat_inj.1 htoNat ▸ hc)

theorem percentDecode_cons_of_ne {b : UInt8} (hb : b ≠ 37) (bs : List UInt8) :
    percentDecode (b :: bs) = b :: percentDecode bs := by
  rw [percentDecode.eq_def]
  split
  · next h => cases h
  · next h =>
    cases h
    exact absurd rfl hb
  · next h =>
    cases h
    rfl

/-- Bytes without `%` are not encoded. -/
theorem percentDecode_of_notMem (h : 37 ∉ bs) : percentDecode bs = bs := by
  induction bs with
  | nil => rfl
  | cons b bs ih =>
    obtain ⟨hb, hbs⟩ := not_or.1 (mt List.mem_cons.2 h)
    rw [percentDecode_cons_of_ne (Ne.symm hb), ih hbs]

/-- ASCII text is read from its bytes. -/
theorem ofUtf8Lossy_utf8Bytes (h : ∀ c ∈ cs, c.toNat < 0x80) :
    Text.ofUtf8Lossy (Text.utf8Bytes cs) = cs := by
  rw [utf8Bytes_eq_map h]
  induction cs with
  | nil => rfl
  | cons c cs ih =>
    obtain ⟨hc, hcs⟩ := List.forall_mem_cons.1 h
    have hlt : UInt8.ofNat c.toNat < 0x80 := by
      rw [UInt8.lt_iff_toNat_lt, toNat_ofNat_toNat hc]
      exact hc
    rw [List.map_cons, Text.ofUtf8Lossy.eq_def]
    simp only [if_pos hlt, toNat_ofNat_toNat hc, Char.ofNat_toNat, ih hcs]

theorem isPlain_iff : isPlain c = true ↔ c.toNat < 0x80 ∧ c ∉ ['%', '+', '&', '='] := by
  rw [isPlain, Bool.and_eq_true, decide_eq_true_eq, decide_eq_true_eq]

/-- Plain text has none of the bytes that mean something in a query. -/
theorem notMem_utf8Bytes_of_isPlain (h : ∀ c ∈ cs, isPlain c = true) :
    ∀ d ∈ ['%', '+', '&', '='], UInt8.ofNat d.toNat ∉ Text.utf8Bytes cs := by
  intro d hd
  have hascii : ∀ d ∈ ['%', '+', '&', '='], decide (d.toNat < 0x80) = true :=
    List.all_eq_true.1 (by decide)
  refine ofNat_notMem_utf8Bytes (of_decide_eq_true (hascii d hd)) (fun c hc => (isPlain_iff.1 (h c hc)).1) fun hmem => ?_
  exact (isPlain_iff.1 (h d hmem)).2 hd

/-- Plain text is meant as it stands. -/
theorem decodeField_utf8Bytes (h : ∀ c ∈ cs, isPlain c = true) :
    decodeField (Text.utf8Bytes cs) = cs := by
  have hnone := notMem_utf8Bytes_of_isPlain h
  have hplus : (Text.utf8Bytes cs).map (fun b => if b = 43 then 32 else b) = Text.utf8Bytes cs := by
    refine (List.map_congr_left fun b hb => if_neg ?_).trans (List.map_id _)
    rintro rfl
    exact hnone '+' (by decide) hb
  rw [decodeField, hplus, percentDecode_of_notMem (hnone '%' (by decide)),
    ofUtf8Lossy_utf8Bytes fun c hc => (isPlain_iff.1 (h c hc)).1]

theorem splitOn_of_notMem {α : Type} [DecidableEq α] {sep : α} {as : List α} (h : sep ∉ as) :
    splitOn sep as = [as] := by
  induction as with
  | nil => rfl
  | cons a as ih =>
    obtain ⟨ha, has⟩ := not_or.1 (mt List.mem_cons.2 h)
    rw [splitOn, if_neg (Ne.symm ha), ih has]

/-- **A query of one plain pair is read back.** -/
theorem lookup?_pair {name value : List Char} (hname : ∀ c ∈ name, isPlain c = true)
    (hvalue : ∀ c ∈ value, isPlain c = true) : lookup? name (name ++ '=' :: value) = some value := by
  have hbytes : Text.utf8Bytes (name ++ '=' :: value) =
      Text.utf8Bytes name ++ 61 :: Text.utf8Bytes value := by
    rw [Text.utf8Bytes, List.flatMap_append, List.flatMap_cons]
    rfl
  have hnone := notMem_utf8Bytes_of_isPlain hname
  have hsingle : 38 ∉ Text.utf8Bytes name ++ 61 :: Text.utf8Bytes value := by
    rw [List.mem_append, List.mem_cons, not_or, not_or]
    exact ⟨hnone '&' (by decide), by decide, notMem_utf8Bytes_of_isPlain hvalue '&' (by decide)⟩
  have hbefore : ∀ b ∈ Text.utf8Bytes name, decide (b ≠ 61) = true := by
    intro b hb
    refine decide_eq_true ?_
    rintro rfl
    exact hnone '=' (by decide) hb
  have hpair : decodePair (Text.utf8Bytes name ++ 61 :: Text.utf8Bytes value) = (name, value) := by
    rw [decodePair, List.takeWhile_append_of_pos hbefore, List.dropWhile_append_of_pos hbefore]
    simp [decodeField_utf8Bytes hname, decodeField_utf8Bytes hvalue]
  simp [lookup?, queryPairs, hbytes, splitOn_of_notMem hsingle, hpair]

/-! ## Paths -/

/-- A character that neither ends a path nor is dropped from it. -/
def staysInPath (c : Char) : Bool := c ≠ '?' && c ≠ '#' && !isLineBreak c

/-- An encoded text consists of characters that were left, signs of encoding and digits. -/
theorem mem_percentEncode {encoded : Char → Bool} (h : c ∈ percentEncode encoded cs) :
    (c ∈ cs ∧ encoded c = false) ∨ c = '%' ∨ ∃ n < 16, c = upperHex n := by
  obtain ⟨a, ha, hc⟩ := List.mem_flatMap.1 h
  split at hc
  · obtain ⟨b, -, hb⟩ := List.mem_flatMap.1 hc
    have hlt : b.toNat < 256 := b.toNat_lt
    simp only [encodeByte, List.mem_cons, List.not_mem_nil, or_false] at hb
    rcases hb with rfl | rfl | rfl
    · exact .inr (.inl rfl)
    · exact .inr (.inr ⟨_, by omega, rfl⟩)
    · exact .inr (.inr ⟨_, by omega, rfl⟩)
  · next hleft =>
    rw [Bool.or_eq_true, not_or] at hleft
    obtain rfl := List.mem_singleton.1 hc
    exact .inl ⟨ha, eq_false_of_ne_true hleft.1⟩

theorem staysInPath_upperHex : ∀ n < 16, staysInPath (upperHex n) = true := by decide

/-- What would end a path or be dropped from it is encoded within a segment. -/
theorem staysInPath_of_not_isEncodedInSegment (h : isEncodedInSegment c = false) :
    staysInPath c = true := by
  have hencoded : ∀ d ∈ ['?', '#', '\t', '\n', '\r'], isEncodedInSegment d = true :=
    List.all_eq_true.1 (by decide)
  have hne : ∀ d ∈ ['?', '#', '\t', '\n', '\r'], c ≠ d := by
    rintro d hd rfl
    rw [hencoded c hd] at h
    cases h
  simp only [List.forall_mem_cons] at hne
  simp [staysInPath, isLineBreak, hne]

theorem staysInPath_percentEncode (h : c ∈ percentEncode isEncodedInSegment cs) :
    staysInPath c = true := by
  rcases mem_percentEncode h with ⟨-, hleft⟩ | rfl | ⟨n, hn, rfl⟩
  · exact staysInPath_of_not_isEncodedInSegment hleft
  · decide
  · exact staysInPath_upperHex n hn

/-- A path is followed by its query. -/
theorem queryAfterPath_append {path query : List Char} (hpath : ∀ c ∈ path, staysInPath c = true)
    (hquery : '#' ∉ query) : queryAfterPath (path ++ '?' :: query) = some query := by
  have hdrop : (path ++ '?' :: query).dropWhile (fun c => c ≠ '?' && c ≠ '#') = '?' :: query := by
    rw [List.dropWhile_append_of_pos fun c hc => (Bool.and_eq_true_iff.1 (hpath c hc)).1]
    rfl
  have hall : query.takeWhile (· ≠ '#') = query := by
    rw [List.takeWhile_eq_self_iff]
    intro c hc
    refine decide_eq_true ?_
    rintro rfl
    exact hquery hc
  rw [queryAfterPath, hdrop]
  exact congrArg some hall

end Url

namespace Permalink

variable {channel : String} {index : MessageIndex} {c : Char}

/-- The query of a link. -/
def query (index : MessageIndex) : List Char := parameter ++ '=' :: Text.digits index.seq

theorem toList_render (channel : String) (index : MessageIndex) :
    (render channel index).toList = path channel ++ '?' :: query index := by
  rw [render, String.toList_ofList, query, List.append_assoc, List.cons_append]

/-- A path is the root or begins with the name of all channels' folder. -/
theorem path_cases (channel : String) :
    path channel = ['/'] ∨ ∃ rest, path channel = '/' :: 'c' :: rest := by
  rw [path]
  split
  · exact .inr ⟨_, rfl⟩
  · dsimp only
    split
    · exact .inl rfl
    · split <;> exact .inr ⟨_, rfl⟩

/-- Nothing of a channel's name ends the path to it. -/
theorem staysInPath_of_mem_path (h : c ∈ path channel) : Url.staysInPath c = true := by
  have hfixed : ∀ c ∈ "/chat/".toList, Url.staysInPath c = true :=
    List.all_eq_true.1 (by decide)
  have hchat : ∀ c ∈ "/chat".toList, Url.staysInPath c = true :=
    List.all_eq_true.1 (by decide)
  have hroot : ∀ c ∈ "/".toList, Url.staysInPath c = true :=
    List.all_eq_true.1 (by decide)
  rw [path] at h
  split at h
  · exact hchat c h
  · dsimp only at h
    split at h
    · exact hroot c h
    · split at h
      · exact hfixed c h
      · rcases List.mem_append.1 h with hfolder | hname
        · exact hfixed c hfolder
        · exact Url.staysInPath_percentEncode hname

/-- A digit is plain, ends no query, and is not dropped from a link. -/
theorem of_mem_digits {n : Nat} (h : c ∈ Text.digits n) :
    Url.isPlain c = true ∧ c ≠ '#' ∧ Url.isLineBreak c = false ∧ Url.isControlOrSpace c = false := by
  have hdigit := Text.isDigit_of_mem_digits h
  have hne : ∀ d ∈ ['%', '+', '&', '=', '#', '\t', '\n', '\r'], c ≠ d := by
    have hnot : ∀ d ∈ ['%', '+', '&', '=', '#', '\t', '\n', '\r'], d.isDigit = false := by simp
    rintro d hd rfl
    rw [hnot c hd] at hdigit
    cases hdigit
  obtain ⟨hlo, hhi⟩ := Char.isDigit_iff_toNat.1 hdigit
  have hlo : 48 ≤ c.toNat := hlo
  have hhi : c.toNat ≤ 57 := hhi
  simp only [List.forall_mem_cons] at hne
  refine ⟨Url.isPlain_iff.2 ⟨by omega, by simp [hne]⟩, hne.2.2.2.2.1, ?_, ?_⟩
  · simp [Url.isLineBreak, hne]
  · simp only [Url.isControlOrSpace, decide_eq_false_iff_not]
    omega

theorem isPlain_of_mem_parameter : ∀ c ∈ parameter, Url.isPlain c = true :=
  List.all_eq_true.1 (by decide)

/-- The query of a link gives the index in digits. -/
theorem lookup?_query (index : MessageIndex) :
    Url.lookup? parameter (query index) = some (Text.digits index.seq) :=
  Url.lookup?_pair isPlain_of_mem_parameter fun _ hc => (of_mem_digits hc).1

theorem notMem_query (index : MessageIndex) : '#' ∉ query index := by
  rw [query, List.mem_append, List.mem_cons, not_or, not_or]
  exact ⟨by decide, by decide, fun h => (of_mem_digits h).2.1 rfl⟩

/-- A link ends with a digit. -/
theorem mem_digits_of_getLast? (h : c ∈ (path channel ++ '?' :: query index).getLast?) :
    c ∈ Text.digits index.seq := by
  have hne : Text.digits index.seq ≠ [] := Nat.toDigits_ne_nil
  have hlast : (path channel ++ '?' :: query index).getLast? =
      (Text.digits index.seq).getLast? := by
    have hsplit : path channel ++ '?' :: query index =
        (path channel ++ '?' :: parameter ++ ['=']) ++ Text.digits index.seq := by
      simp [query]
    rw [hsplit, List.getLast?_append, Option.or_eq_left_of_isSome (List.getLast?_isSome.2 hne)]
  rw [hlast] at h
  exact List.mem_of_mem_getLast? h

/-- A link begins with a single slash. -/
theorem exists_link_eq (channel : String) (index : MessageIndex) :
    ∃ b rest, path channel ++ '?' :: query index = '/' :: b :: rest ∧ Url.isSlash b = false := by
  rcases path_cases channel with hroot | ⟨rest, hfolder⟩
  · rw [hroot]
    exact ⟨_, _, rfl, by decide⟩
  · rw [hfolder]
    exact ⟨_, _, rfl, by decide⟩

theorem eq_slash_of_head? (h : c ∈ (path channel ++ '?' :: query index).head?) : c = '/' := by
  obtain ⟨b, rest, heq, -⟩ := exists_link_eq channel index
  rw [heq] at h
  exact (Option.some.inj h).symm

/-- Nothing is dropped from a link. -/
theorem clean_link (channel : String) (index : MessageIndex) :
    Url.clean (path channel ++ '?' :: query index) = path channel ++ '?' :: query index := by
  rw [Url.clean, Text.dropWhile_around, List.filter_eq_self]
  · intro c hc
    have hplain : ∀ c ∈ parameter, (!Url.isLineBreak c) = true := List.all_eq_true.1 (by decide)
    have hbreak : Url.isLineBreak c = false := by
      rw [query] at hc
      simp only [List.mem_append, List.mem_cons] at hc
      rcases hc with hpath | rfl | hparameter | rfl | hdigits
      · simpa using (Bool.and_eq_true_iff.1 (staysInPath_of_mem_path hpath)).2
      · decide
      · simpa using hplain c hparameter
      · decide
      · exact (of_mem_digits hdigits).2.2.1
    rw [hbreak]
    rfl
  · intro c hc
    rw [eq_slash_of_head? hc]
    decide
  · exact fun c hc => (of_mem_digits (mem_digits_of_getLast? hc)).2.2.2

/-- A link is relative, and what it leads with is its query. -/
theorem query?_link (channel : String) (index : MessageIndex) :
    query? (path channel ++ '?' :: query index) = some (query index) := by
  obtain ⟨b, rest, heq, hb⟩ := exists_link_eq channel index
  have hclean := clean_link channel index
  have hquery : Url.queryAfterPath (path channel ++ '?' :: query index) = some (query index) :=
    Url.queryAfterPath_append (fun _ hc => staysInPath_of_mem_path hc) (notMem_query index)
  rw [heq] at hclean hquery ⊢
  have hread : Url.read ('/' :: b :: rest) = .relative := by
    rw [Url.read, hclean]
    rfl
  have hrelative : Url.readRelative ('/' :: b :: rest) =
      .whole (Url.queryAfterPath ('/' :: b :: rest)) := by
    rw [Url.readRelative, hclean]
    split
    · next h =>
      cases h
      cases hb
    · next h =>
      cases h
      rw [hb, Bool.and_false, if_neg Bool.false_ne_true]
    · rfl
  rw [query?, hread]
  simp only [hrelative, hquery]

/-- There are no blanks around a link. -/
theorem trim_link (channel : String) (index : MessageIndex) :
    Text.trim (path channel ++ '?' :: query index) = path channel ++ '?' :: query index := by
  apply Text.dropWhile_around
  · intro c hc
    rw [eq_slash_of_head? hc]
    decide
  · exact fun c hc =>
      Text.isBlank_of_isDigit (Text.isDigit_of_mem_digits (mem_digits_of_getLast? hc))

/-- **A link leads to the message that it was made for**, whatever its channel is called. -/
theorem target?_render (channel : String) (index : MessageIndex) :
    target? (render channel index) = some index := by
  have hquery : query? (Text.trim (render channel index).toList) = some (query index) := by
    rw [toList_render, trim_link, query?_link]
  rw [target?, hquery]
  simp only [Option.bind_eq_bind, Option.bind_some, lookup?_query, MessageIndex.parse_digits]
  rfl

end Permalink

end Scrollback
