import Scrollback.Message.Codec
import Scrollback.Proofs.Json.RoundTrip
import Scrollback.Proofs.Time.Stamp
/-!
# Nodes that are read back

A node is written as JSON with its fields in a fixed order, and read from any order, with unknown
fields in between, or from an array. However it was read, its written form is read as the same node.
Only the time of a post needs care: there are instants that nothing is read as, and those that are
read are the valid ones.

## Main statements

* `Node.ofJson?_toJson` — the JSON value of a node is read as the node.
* `Node.render_reads_back` — the written form of a node is read as the node, and so whatever text is
  read as a node may be exchanged for the written form of it.
-/

namespace Scrollback

variable {s : String} {n : Node} {m : Message} {v : Json} {p : Json.Token → Prop}

/-! ## The value of a node -/

theorem Content.ofJson?_toJson (c : Content) : Content.ofJson? c.toJson = some c := by
  cases c <;> simp [toJson, ofJson?]

theorem Content.mapM_ofJson?_toJson (cs : List Content) :
    cs.mapM (ofJson? ∘ toJson) = some cs := by
  induction cs with
  | nil => rfl
  | cons c cs ih => simp [ofJson?_toJson, ih]

theorem Message.ofMembers?_members (hread : Instant.read? m.sentAt.render = some m.sentAt)
    (kind : Json) : ofMembers? (("kind", kind) :: m.members) = some m := by
  simp [ofMembers?, ofFields?, members, Json.required?, Json.valuesOf, Json.string?, Json.items?,
    Json.bool?, Content.mapM_ofJson?_toJson, hread]

/-- **The JSON value of a node is read as the node**, if the time of a post is read back. -/
theorem Node.ofJson?_toJson
    (hread : ∀ m, n = .post m → Instant.read? m.sentAt.render = some m.sentAt) :
    Node.ofJson? n.toJson = some n := by
  cases n with
  | deleted => simp [toJson, ofJson?, ofMembers?, Json.required?, Json.valuesOf, NodeKind.ofName?]
  | post m =>
    have hm := Message.ofMembers?_members (hread m rfl) (.string "post")
    have hkind : Json.required? "kind" (("kind", .string "post") :: m.members) =
        some (.string "post") := by
      simp [Json.required?, Json.valuesOf, Message.members]
    simp [toJson, ofJson?, hkind, NodeKind.ofName?, ofMembers?, hm]

/-! ## The text of a node -/

theorem Content.depth_toJson (c : Content) : c.toJson.depth = 1 := by
  cases c <;> rfl

theorem Content.itemsDepth_map_toJson (cs : List Content) :
    Json.itemsDepth (cs.map toJson) ≤ 1 := by
  induction cs with
  | nil => exact Nat.zero_le 1
  | cons c cs ih =>
    rw [List.map_cons, Json.itemsDepth, depth_toJson]
    omega

theorem Node.depth_toJson (n : Node) : n.toJson.depth ≤ 3 := by
  cases n with
  | deleted => decide
  | post m =>
    have hparts := Content.itemsDepth_map_toJson m.contents
    simp only [toJson, Message.members, Json.depth, Json.membersDepth]
    omega

theorem Content.isWord_of_mem_tokens (c : Content) : ∀ t ∈ c.toJson.tokens, t.isWord = true := by
  cases c <;> simp [toJson, Json.tokens, Json.memberTokens, Json.Token.isWord]

theorem Content.isWord_of_mem_itemTokens (cs : List Content) :
    ∀ t ∈ Json.itemTokens (cs.map toJson), t.isWord = true := by
  cases cs with
  | nil => simp [Json.itemTokens]
  | cons c cs =>
    intro t ht
    rw [List.map_cons, Json.itemTokens_cons, List.mem_append, List.mem_flatMap] at ht
    rcases ht with ht | ⟨v, hv, ht⟩
    · exact c.isWord_of_mem_tokens t ht
    · obtain ⟨d, -, rfl⟩ := List.mem_map.1 hv
      rcases List.mem_cons.1 ht with rfl | ht
      · rfl
      · exact d.isWord_of_mem_tokens t ht

theorem Node.isWord_of_mem_tokens (n : Node) : ∀ t ∈ n.toJson.tokens, t.isWord = true := by
  cases n with
  | deleted => decide
  | post m =>
    have hparts := Content.isWord_of_mem_itemTokens m.contents
    simpa [toJson, Message.members, Json.tokens, Json.memberTokens, or_imp, forall_and,
      Json.Token.isWord] using hparts

theorem Node.read?_render
    (hread : ∀ m, n = .post m → Instant.read? m.sentAt.render = some m.sentAt) :
    Node.read? n.render = some n := by
  have hdepth := n.depth_toJson
  rw [read?, render, Json.read?_render (Nat.le_trans hdepth (by decide)) n.isWord_of_mem_tokens,
    Option.bind_some, ofJson?_toJson hread]

/-! ## The time of a post that was read -/

theorem Message.exists_read?_of_ofFields? {author contents sentAt : Json} {pending : Option Json}
    (h : ofFields? author contents sentAt pending = some m) :
    ∃ s, Instant.read? s = some m.sentAt := by
  simp only [ofFields?, Option.bind_eq_bind, Option.bind_eq_some_iff] at h
  obtain ⟨_, -, _, -, _, -, text, -, t, ht, h⟩ := h
  refine ⟨text, ?_⟩
  split at h
  · obtain ⟨_, -, hm⟩ := Option.bind_eq_some_iff.1 h
    cases hm
    exact ht
  · cases h
    exact ht

theorem Message.exists_read?_of_ofMembers? {members : List (String × Json)}
    (h : ofMembers? members = some m) : ∃ s, Instant.read? s = some m.sentAt := by
  simp only [ofMembers?, Option.bind_eq_bind, Option.bind_eq_some_iff] at h
  obtain ⟨_, -, _, -, _, -, h⟩ := h
  split at h
  · exact exists_read?_of_ofFields? h
  · exact exists_read?_of_ofFields? h
  · cases h

theorem Message.exists_read?_of_ofItems? {items : List Json} (h : ofItems? items = some m) :
    ∃ s, Instant.read? s = some m.sentAt := by
  unfold ofItems? at h
  split at h
  · exact exists_read?_of_ofFields? h
  · exact exists_read?_of_ofFields? h
  · cases h

/-- The time of a post is read from some text. -/
theorem Node.exists_read?_of_ofJson? (h : Node.ofJson? v = some (.post m)) :
    ∃ s, Instant.read? s = some m.sentAt := by
  unfold ofJson? at h
  split at h
  · next members =>
    simp only [Option.bind_eq_bind, Option.bind_eq_some_iff] at h
    obtain ⟨_, -, kind, -, h⟩ := h
    cases kind with
    | deleted => cases h
    | post =>
      obtain ⟨_, hm, heq⟩ := Option.map_eq_some_iff.1 h
      cases heq
      exact Message.exists_read?_of_ofMembers? hm
  · next first items =>
    simp only [Option.bind_eq_bind, Option.bind_eq_some_iff] at h
    obtain ⟨kind, -, h⟩ := h
    cases kind with
    | deleted =>
      rw [ofItems?] at h
      split at h <;> cases h
    | post =>
      obtain ⟨_, hm, heq⟩ := Option.map_eq_some_iff.1 h
      cases heq
      exact Message.exists_read?_of_ofItems? hm
  · cases h

/-- **The written form of a node reads back as the node**: of a deleted one, and of a post by
anybody, with any parts, pending or not, and sent at any time that is read from some text. So
whatever a text writes, the written form of it writes the same. -/
theorem Node.render_reads_back :
    (∀ n : Node, (∀ m, n = .post m → ∃ s, Instant.read? s = some m.sentAt) →
      Node.read? n.render = some n) ∧
    ∀ s n, Node.read? s = some n → Node.read? n.render = some n := by
  have hback : ∀ n : Node, (∀ m, n = .post m → ∃ s, Instant.read? s = some m.sentAt) →
      Node.read? n.render = some n := by
    intro n htime
    refine Node.read?_render fun m hm => ?_
    exact Instant.read?_render (Instant.exists_read?_iff.1 (htime m hm))
  refine ⟨hback, fun s n hn => hback n ?_⟩
  rintro m rfl
  obtain ⟨v, -, hv⟩ := Option.bind_eq_some_iff.1 hn
  exact Node.exists_read?_of_ofJson? hv

/-- A post whose author and parts hold characters of every kind, sent in a leap second of a year
before the first, on a clock ahead of UTC. -/
theorem Node.render_reads_back_leap_second : ∃ t : Instant, ∃ n : Node,
    Instant.read? "-0001-12-31 23:59:60.123456 +05:30" = some t ∧
      n = .post ⟨"\"\\\x07é😀", [.text "", .code "\n\t/", .url "x:y", .mention "nec"], t, true⟩ ∧
        1000000000 ≤ t.nanos ∧ Node.read? n.render = some n := by
  have hread : Instant.read? "-0001-12-31 23:59:60.123456 +05:30" =
      some ⟨⟨-1, 12, 31⟩, 66599, 1123456000⟩ := by decide +kernel
  refine ⟨_, _, hread, rfl, by decide, Node.render_reads_back.1 _ ?_⟩
  rintro m ⟨⟩
  exact ⟨_, hread⟩

end Scrollback
