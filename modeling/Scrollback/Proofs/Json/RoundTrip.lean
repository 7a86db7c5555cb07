import Scrollback.Json.Reader
/-!
# JSON texts that are read back

A value is written as tokens and a token as characters. A string is read back from its written form
whatever characters it holds: those that are written as two characters, those that are written by
number, and all others, which stand for themselves. The tokens of a value are taken as that value as
long as not too many arrays and objects are open within it.

## Main definitions

* `Json.Token.isWord` — a token that is no number.
* `Json.depth` — how many arrays and objects are open at most within a value.

## Main statements

* `Json.scanString?_render` — the written form of a string is read back.
* `Json.lex?_render` — the written forms of tokens are read back, numbers apart.
* `Json.Reader.feedAll_tokens` — the tokens of a value are taken as that value.
* `Json.read?_render` — the written form of a value without numbers is read back.
-/

namespace Scrollback.Json

variable {c : Char}

/-! ## Strings -/

theorem hexValue?_hexDigit : ∀ n < 16, hexValue? (hexDigit n) = some n := by decide

/-- A letter after a backslash stands for its character. -/
theorem scanString?_letter {d : Char} (hd : unescape? d = some c) (rest : List Char) :
    scanString? ('\\' :: d :: rest) = (scanString? rest).map fun p => (c :: p.1, p.2) := by
  have hu : d ≠ 'u' := by
    rintro rfl
    simp [unescape?] at hd
  rw [scanString?.eq_def]
  split
  · next h => simp at h
  · next h => simp at h
  · next h => simp [hu] at h
  · next h =>
    simp at h
    obtain ⟨rfl, rfl⟩ := h
    rw [hd]
    cases scanString? rest <;> rfl
  · next hno h =>
    cases h
    exact absurd rfl (hno d rest rfl)

/-- A character of one byte may be given by its number. -/
theorem scanString?_unit (hc : c.toNat < 256) (rest : List Char) :
    scanString?
        ('\\' :: 'u' :: '0' :: '0' :: hexDigit (c.toNat / 16) :: hexDigit (c.toNat % 16) :: rest) =
      (scanString? rest).map fun p => (c :: p.1, p.2) := by
  have hzero : hexValue? '0' = some 0 := by decide
  have hhigh := hexValue?_hexDigit (c.toNat / 16) (by omega)
  have hlow := hexValue?_hexDigit (c.toNat % 16) (by omega)
  have hunit : hexUnit? '0' '0' (hexDigit (c.toNat / 16)) (hexDigit (c.toNat % 16)) =
      some c.toNat := by
    simp only [hexUnit?, hzero, hhigh, hlow, Option.bind_eq_bind, Option.bind_some, pure,
      Option.some.injEq]
    omega
  rw [scanString?]
  simp only [hunit, Option.bind_eq_bind, Option.bind_some]
  rw [if_neg (by omega), if_neg (by omega), Char.ofNat_toNat]
  cases scanString? rest <;> rfl

/-- Any other character stands for itself. -/
theorem scanString?_self (hquote : c ≠ '"') (hslash : c ≠ '\\') (hc : 32 ≤ c.toNat)
    (rest : List Char) :
    scanString? (c :: rest) = (scanString? rest).map fun p => (c :: p.1, p.2) := by
  rw [scanString?.eq_def]
  split
  · next h => simp at h
  · next h => simp [hquote] at h
  · next h => simp [hslash] at h
  · next h => simp [hslash] at h
  · next h =>
    cases h
    rw [if_neg (by simp [hslash, hc])]
    cases scanString? rest <;> rfl

/-- **A character is read back from the way in which it is written.** -/
theorem scanString?_escape (c : Char) (rest : List Char) :
    scanString? (escape c ++ rest) = (scanString? rest).map fun p => (c :: p.1, p.2) := by
  rw [escape]
  split
  · next h => exact scanString?_letter (by simp [unescape?, h]) rest
  split
  · next h => exact scanString?_letter (by simp [unescape?, h]) rest
  split
  · next h => exact scanString?_letter (by simp [unescape?, h]) rest
  split
  · next h => exact scanString?_letter (by simp [unescape?, h]) rest
  split
  · next h => exact scanString?_letter (by simp [unescape?, h]) rest
  split
  · next h =>
    obtain rfl : Char.ofNat 8 = c := by rw [← h, Char.ofNat_toNat]
    exact scanString?_letter rfl rest
  split
  · next h =>
    obtain rfl : Char.ofNat 12 = c := by rw [← h, Char.ofNat_toNat]
    exact scanString?_letter rfl rest
  split
  · next h => exact scanString?_unit (by omega) rest
  · next hquote hslash _ _ _ _ _ hc => exact scanString?_self hquote hslash (by omega) rest

theorem scanString?_render (cs rest : List Char) :
    scanString? (cs.flatMap escape ++ '"' :: rest) = some (cs, rest) := by
  induction cs with
  | nil => simp [scanString?]
  | cons c cs ih =>
    rw [List.flatMap_cons, List.append_assoc, scanString?_escape, ih, Option.map_some]

/-! ## Tokens -/

/-- The token is no number. -/
def Token.isWord : Token → Bool
  | .natural _ | .real _ => false
  | _ => true

/-- **A token that is no number is read back**, whatever follows it. -/
theorem scanToken?_render {t : Token} (ht : t.isWord = true) (rest : List Char) :
    scanToken? (t.render ++ rest) = some (t, rest) := by
  cases t with
  | natural n => cases ht
  | real cs => cases ht
  | bool b => cases b <;> rfl
  | string s =>
    rw [Token.render, List.cons_append, List.append_assoc, List.cons_append, List.nil_append,
      scanToken?, scanString?_render]
    simp
  | _ => rfl

/-- A token that is no number begins with a character that is no blank. -/
theorem exists_render_eq_cons {t : Token} (ht : t.isWord = true) :
    ∃ c cs, t.render = c :: cs ∧ isSpace c = false := by
  cases t with
  | natural n => cases ht
  | real cs => cases ht
  | bool b => cases b <;> exact ⟨_, _, rfl, rfl⟩
  | _ => exact ⟨_, _, rfl, rfl⟩

theorem lexUpTo?_render {ts : List Token} (hts : ∀ t ∈ ts, t.isWord = true) {fuel : Nat}
    (hfuel : ts.length ≤ fuel) : lexUpTo? fuel (ts.flatMap Token.render) = some ts := by
  induction ts generalizing fuel with
  | nil => cases fuel <;> rfl
  | cons t ts ih =>
    obtain ⟨ht, hts⟩ := List.forall_mem_cons.1 hts
    obtain ⟨c, cs, hcs, hspace⟩ := exists_render_eq_cons ht
    cases fuel with
    | zero => simp at hfuel
    | succ fuel =>
      have hscan := scanToken?_render ht (ts.flatMap Token.render)
      rw [List.flatMap_cons, lexUpTo?.eq_def]
      rw [hcs, List.cons_append] at hscan ⊢
      simp [hspace, hscan, ih hts (Nat.le_of_succ_le_succ hfuel)]

/-- **Tokens that are no numbers are read back from their written forms.** -/
theorem lex?_render {ts : List Token} (hts : ∀ t ∈ ts, t.isWord = true) :
    lex? (ts.flatMap Token.render) = some ts := by
  refine lexUpTo?_render hts ?_
  induction ts with
  | nil => simp
  | cons t ts ih =>
    obtain ⟨ht, hts⟩ := List.forall_mem_cons.1 hts
    obtain ⟨c, cs, hcs, -⟩ := exists_render_eq_cons ht
    have := ih hts
    simp only [List.flatMap_cons, hcs, List.length_cons, List.length_append]
    omega

/-! ## Values -/

mutual

/-- How many arrays and objects are open at most within a value. -/
def depth : Json → Nat
  | .array items => itemsDepth items + 1
  | .object members => membersDepth members + 1
  | _ => 0

/-- The depth of the deepest item. -/
def itemsDepth : List Json → Nat
  | [] => 0
  | v :: vs => max (depth v) (itemsDepth vs)

/-- The depth of the deepest member. -/
def membersDepth : List (String × Json) → Nat
  | [] => 0
  | (_, v) :: ms => max (depth v) (membersDepth ms)

end

theorem itemTokens_cons (v : Json) (vs : List Json) :
    itemTokens (v :: vs) = v.tokens ++ vs.flatMap fun w => .comma :: w.tokens := by
  induction vs generalizing v with
  | nil => simp [itemTokens]
  | cons w vs ih => simp [itemTokens, ih]

theorem memberTokens_cons (m : String × Json) (ms : List (String × Json)) :
    memberTokens (m :: ms) = .string m.1 :: .colon ::
      (m.2.tokens ++ ms.flatMap fun n => .comma :: .string n.1 :: .colon :: n.2.tokens) := by
  induction ms generalizing m with
  | nil => simp [memberTokens]
  | cons n ms ih => simp [memberTokens, ih]

namespace Reader

variable {stack : List Frame} {t : Token} {ts : List Token}

theorem feedAll_cons (r : Reader) (t : Token) (ts : List Token) :
    r.feedAll (t :: ts) = (r.feed t).bind fun r => r.feedAll ts := by
  simp [feedAll]

theorem feedAll_of_feed {r r' : Reader} (h : r.feed t = some r') :
    r.feedAll (t :: ts) = r'.feedAll ts := by
  rw [feedAll_cons, h, Option.bind_some]

/-- The tokens of a value begin with one at which a value begins. -/
theorem exists_tokens_eq_cons (v : Json) : ∃ t ts, v.tokens = t :: ts ∧ t ≠ .closeArray := by
  cases v <;> exact ⟨_, _, by rw [tokens], by simp⟩

/-- A value may stand first in an array as it may stand anywhere. -/
theorem feedAll_firstItem (v : Json) (stack : List Frame) (ts : List Token) :
    (firstItem stack).feedAll (v.tokens ++ ts) = (value stack).feedAll (v.tokens ++ ts) := by
  obtain ⟨t, us, heq, ht⟩ := exists_tokens_eq_cons v
  have hfeed : (firstItem stack).feed t = (value stack).feed t := by
    cases t <;> first | rfl | exact absurd rfl ht
  rw [heq, List.cons_append, feedAll_cons, feedAll_cons, hfeed]

mutual

/-- **The tokens of a value are taken as that value**, where so many arrays and objects may be
open. -/
theorem feedAll_tokens : ∀ (v : Json) (stack : List Frame) (ts : List Token),
    stack.length + v.depth ≤ depthLimit →
    (value stack).feedAll (v.tokens ++ ts) = (deliver v stack).feedAll ts
  | .null, stack, ts, _ => by rw [tokens]; exact feedAll_of_feed rfl
  | .bool b, stack, ts, _ => by rw [tokens]; exact feedAll_of_feed rfl
  | .natural n, stack, ts, _ => by rw [tokens]; exact feedAll_of_feed rfl
  | .real cs, stack, ts, _ => by rw [tokens]; exact feedAll_of_feed rfl
  | .string s, stack, ts, _ => by rw [tokens]; exact feedAll_of_feed rfl
  | .array [], stack, ts, h => by
    rw [depth] at h
    have hopen : (value stack).feed .openArray = some (firstItem (.array [] :: stack)) :=
      if_pos (by omega)
    rw [tokens, itemTokens, List.cons_append, feedAll_of_feed hopen]
    exact feedAll_of_feed rfl
  | .array (v :: vs), stack, ts, h => by
    rw [depth, itemsDepth] at h
    have hopen : (value stack).feed .openArray = some (firstItem (.array [] :: stack)) :=
      if_pos (by omega)
    have hv := fun ts => feedAll_tokens v (.array [] :: stack) ts (by rw [List.length_cons]; omega)
    have hvs := feedAll_items vs [v] stack ts (by omega)
    rw [tokens, itemTokens_cons, List.cons_append, feedAll_of_feed hopen, List.append_assoc,
      List.append_assoc, feedAll_firstItem, hv]
    exact hvs
  | .object [], stack, ts, h => by
    rw [depth] at h
    have hopen : (value stack).feed .openObject = some (firstMember stack) := if_pos (by omega)
    rw [tokens, memberTokens, List.cons_append, feedAll_of_feed hopen]
    exact feedAll_of_feed rfl
  | .object ((k, v) :: ms), stack, ts, h => by
    rw [depth, membersDepth] at h
    have hopen : (value stack).feed .openObject = some (firstMember stack) := if_pos (by omega)
    have hname : (firstMember stack).feed (.string k) = some (colon [] k stack) := rfl
    have hcolon : (colon [] k stack).feed .colon = some (value (.member [] k :: stack)) := rfl
    have hv := fun ts =>
      feedAll_tokens v (.member [] k :: stack) ts (by rw [List.length_cons]; omega)
    have hms := feedAll_members ms [(k, v)] stack ts (by omega)
    rw [tokens, memberTokens_cons, List.cons_append, feedAll_of_feed hopen, List.append_assoc,
      List.cons_append, feedAll_of_feed hname, List.cons_append, feedAll_of_feed hcolon,
      List.append_assoc, hv]
    exact hms

/-- Behind the first items of an array the others are taken, up to its end. -/
theorem feedAll_items : ∀ (vs items : List Json) (stack : List Frame) (ts : List Token),
    stack.length + 1 + itemsDepth vs ≤ depthLimit →
    (separator (.array items :: stack)).feedAll
        (vs.flatMap (fun v => .comma :: v.tokens) ++ (.closeArray :: ts)) =
      (deliver (.array (items.reverse ++ vs)) stack).feedAll ts
  | [], items, stack, ts, _ => by
    rw [List.append_nil]
    exact feedAll_of_feed rfl
  | v :: vs, items, stack, ts, h => by
    rw [itemsDepth] at h
    have hcomma : (separator (.array items :: stack)).feed .comma =
        some (value (.array items :: stack)) := rfl
    have hv := fun ts =>
      feedAll_tokens v (.array items :: stack) ts (by rw [List.length_cons]; omega)
    have hvs := feedAll_items vs (v :: items) stack ts (by omega)
    rw [List.reverse_cons, List.append_assoc, List.singleton_append] at hvs
    rw [List.flatMap_cons, List.cons_append, List.cons_append, feedAll_of_feed hcomma,
      List.append_assoc, hv]
    exact hvs

/-- Behind the first members of an object the others are taken, up to its end. -/
theorem feedAll_members : ∀ (ms members : List (String × Json)) (stack : List Frame)
    (ts : List Token), stack.length + 1 + membersDepth ms ≤ depthLimit →
    (separator (.object members :: stack)).feedAll
        (ms.flatMap (fun m => .comma :: .string m.1 :: .colon :: m.2.tokens) ++
          (.closeObject :: ts)) =
      (deliver (.object (members.reverse ++ ms)) stack).feedAll ts
  | [], members, stack, ts, _ => by
    rw [List.append_nil]
    exact feedAll_of_feed rfl
  | (k, v) :: ms, members, stack, ts, h => by
    rw [membersDepth] at h
    have hcomma : (separator (.object members :: stack)).feed .comma =
        some (memberName members stack) := rfl
    have hname : (memberName members stack).feed (.string k) = some (colon members k stack) := rfl
    have hcolon : (colon members k stack).feed .colon =
        some (value (.member members k :: stack)) := rfl
    have hv := fun ts =>
      feedAll_tokens v (.member members k :: stack) ts (by rw [List.length_cons]; omega)
    have hms := feedAll_members ms ((k, v) :: members) stack ts (by omega)
    rw [List.reverse_cons, List.append_assoc, List.singleton_append] at hms
    simp only [List.flatMap_cons, List.cons_append, List.append_assoc]
    rw [feedAll_of_feed hcomma, feedAll_of_feed hname, feedAll_of_feed hcolon, hv]
    exact hms

end

end Reader

/-- **The tokens of a value that is not too deep are those of no other value.** -/
theorem ofTokens?_tokens {v : Json} (h : v.depth ≤ Reader.depthLimit) :
    ofTokens? v.tokens = some v := by
  have hfeed := Reader.feedAll_tokens v [] [] (by rwa [List.length_nil, Nat.zero_add])
  rw [List.append_nil] at hfeed
  rw [ofTokens?, hfeed]
  rfl

/-- **The written form of a value without numbers is read back**, if the value is not too deep. -/
theorem read?_render {v : Json} (hdepth : v.depth ≤ Reader.depthLimit)
    (hwords : ∀ t ∈ v.tokens, t.isWord = true) : read? v.render = some v := by
  rw [read?, render, String.toList_ofList, lex?_render hwords, Option.bind_some,
    ofTokens?_tokens hdepth]

end Scrollback.Json
