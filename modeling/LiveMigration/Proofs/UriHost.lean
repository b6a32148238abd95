import LiveMigration.Bootstrap
import LiveMigration.Proofs.TextRoundTrip

/-! # The host of a migration URI

A migration URI is cut at every `:` and its empty pieces are dropped: what is left are its tokens,
the scheme first and the host second. Said without cutting, `tok` is the second token of `u` when
`u` is colons, a first token, at least one colon, `tok`, and a rest that is empty or starts at a
colon, where a token is a non-empty run of characters without a colon (`SecondToken`). A text has
at most one second token (`SecondToken.unique`).

The address of a URI is its second token read as a dotted quad, and there is none when the URI has
no second token; so a scheme, colons and an address, followed by nothing or by a colon and anything,
give the address back however many colons stand before, between and after
(`ipFromUri_reads_second_token`).

Everything about the tokens follows from one equation, at a colon (`tokens_append_colon`), and from
the fact that a text is all colons or starts with its first token (`colons_or_first_token`). -/

namespace LiveMigration
namespace Uri

open Text

/-- The non-empty pieces of a text between its colons. --/
def tokens (cs : List Char) : List (List Char) := (split ':' cs).filter (!·.isEmpty)

/-- Characters that are all colons. --/
def Colons (cs : List Char) : Prop := ∀ c ∈ cs, c = ':'

/-- A token: a non-empty run of characters without a colon. --/
def Token (cs : List Char) : Prop := cs ≠ [] ∧ ':' ∉ cs

/-- What may follow a token: nothing, or a colon and anything. --/
def Follows (cs : List Char) : Prop := ∀ c ∈ cs.head?, c = ':'

/-- `tok` is the second token of `u`: `u` is colons, a first token, at least one colon, `tok`, and a
    rest that may follow a token. --/
def SecondToken (u tok : List Char) : Prop :=
  ∃ p s q t, u = p ++ s ++ q ++ tok ++ t ∧ Colons p ∧ Token s ∧ q ≠ [] ∧ Colons q ∧ Token tok ∧ Follows t

/-! ### Tokens -/

theorem colons_cons {cs : List Char} (h : Colons cs) : Colons (':' :: cs) := by
  intro c hc
  rcases List.mem_cons.1 hc with rfl | hc
  · rfl
  · exact h c hc

theorem Colons.follows {cs : List Char} (h : Colons cs) : Follows cs := by
  intro c hc
  exact h c (List.mem_of_mem_head? hc)

/-- A colon-led text may follow a token. --/
theorem follows_colon_cons (cs : List Char) : Follows (':' :: cs) := by
  intro c hc
  cases hc
  rfl

@[simp] theorem tokens_nil : tokens [] = [] := rfl

/-- Cutting at a colon: the tokens on either side of it. --/
theorem tokens_append_colon (x y : List Char) : tokens (x ++ ':' :: y) = tokens x ++ tokens y := by
  unfold tokens split
  simp only [List.splitOn_eq_splitOnP]
  rw [List.splitOnP_append_cons (p := fun c => c == ':') x y (beq_self_eq_true ':'), List.filter_append]

theorem tokens_colon_cons (cs : List Char) : tokens (':' :: cs) = tokens cs :=
  tokens_append_colon [] cs

/-- Colons in front of a text give no token. --/
theorem tokens_colons_append {p : List Char} (hp : Colons p) (cs : List Char) : tokens (p ++ cs) = tokens cs := by
  induction p with
  | nil => rfl
  | cons c p ih =>
    obtain rfl : c = ':' := hp c List.mem_cons_self
    rw [List.cons_append, tokens_colon_cons]
    exact ih fun d hd => hp d (List.mem_cons_of_mem _ hd)

theorem tokens_colons {p : List Char} (hp : Colons p) : tokens p = [] := by
  simpa using tokens_colons_append hp []

/-- A token alone is its only token. --/
theorem tokens_token {s : List Char} (hs : Token s) : tokens s = [s] := by
  have hsplit : split ':' s = [s] := List.splitOn_eq_singleton hs.2
  simp [tokens, hsplit, hs.1]

/-- A token followed by nothing or a colon comes out whole. --/
theorem tokens_token_append {s t : List Char} (hs : Token s) (ht : Follows t) : tokens (s ++ t) = s :: tokens t := by
  cases t with
  | nil => rw [List.append_nil, tokens_token hs, tokens_nil]
  | cons c t =>
    obtain rfl : c = ':' := ht c rfl
    rw [tokens_append_colon, tokens_colon_cons, tokens_token hs, List.singleton_append]

/-- A text is all colons, or colons, its first token, and what may follow a token. Induction on the
    text: a colon in front joins the leading colons, any other character starts the first token or
    joins it. --/
theorem colons_or_first_token (u : List Char) :
    Colons u ∨ ∃ p s t, u = p ++ s ++ t ∧ Colons p ∧ Token s ∧ Follows t := by
  induction u with
  | nil => exact .inl fun c hc => absurd hc List.not_mem_nil
  | cons c u ih =>
    by_cases hc : c = ':'
    · subst hc
      rcases ih with hu | ⟨p, s, t, rfl, hp, hs, ht⟩
      · exact .inl (colons_cons hu)
      · exact .inr ⟨':' :: p, s, t, rfl, colons_cons hp, hs, ht⟩
    · have hone : Token [c] := ⟨List.cons_ne_nil c [], by simpa [eq_comm] using hc⟩
      rcases ih with hu | ⟨p, s, t, rfl, hp, hs, ht⟩
      · exact .inr ⟨[], [c], u, rfl, fun _ h => absurd h List.not_mem_nil, hone, hu.follows⟩
      · cases p with
        | nil =>
          -- `c` joins the first token
          refine .inr ⟨[], c :: s, t, rfl, fun _ h => absurd h List.not_mem_nil, ⟨List.cons_ne_nil c s, ?_⟩, ht⟩
          simpa [eq_comm, hc] using hs.2
        | cons d p =>
          -- `c` is a token of its own, ended by the colons of `d :: p`
          obtain rfl : d = ':' := hp d List.mem_cons_self
          refine .inr ⟨[], [c], ':' :: p ++ s ++ t, rfl, fun _ h => absurd h List.not_mem_nil, hone, ?_⟩
          exact follows_colon_cons _

/-- A token does not start with a colon, so colons ending the first token are never empty. --/
theorem ne_nil_of_follows_append {q tok t : List Char} (htok : Token tok) (h : Follows (q ++ tok ++ t)) :
    q ≠ [] := by
  rintro rfl
  obtain ⟨c, cs, rfl⟩ := List.exists_cons_of_ne_nil htok.1
  have hcolon : c = ':' := h c rfl
  exact htok.2 (hcolon ▸ List.mem_cons_self)

/-! ### The second token -/

section Second
variable {u tok : List Char}

/-- The second token of a text is the second of its tokens. --/
theorem tokens_of_secondToken (h : SecondToken u tok) : ∃ s rest, tokens u = s :: tok :: rest := by
  obtain ⟨p, s, q, t, rfl, hp, hs, hq, hqc, htok, ht⟩ := h
  -- the colons `q` end the first token
  have hfollow : Follows (q ++ (tok ++ t)) := by
    obtain ⟨c, q', rfl⟩ := List.exists_cons_of_ne_nil hq
    intro d hd
    cases hd
    exact hqc _ List.mem_cons_self
  refine ⟨s, tokens t, ?_⟩
  simp only [List.append_assoc]
  rw [tokens_colons_append hp, tokens_token_append hs hfollow, tokens_colons_append hqc, tokens_token_append htok ht]

theorem SecondToken.unique {tok' : List Char} (h : SecondToken u tok) (h' : SecondToken u tok') : tok = tok' := by
  obtain ⟨s, rest, hu⟩ := tokens_of_secondToken h
  obtain ⟨s', rest', hu'⟩ := tokens_of_secondToken h'
  rw [hu] at hu'
  exact (List.cons.inj (List.cons.inj hu').2).1

/-- A text with no second token has at most one token. --/
theorem length_tokens_le_one (h : ¬∃ tok, SecondToken u tok) : (tokens u).length ≤ 1 := by
  rcases colons_or_first_token u with hu | ⟨p, s, t, rfl, hp, hs, ht⟩
  · simp [tokens_colons hu]
  rw [List.append_assoc, tokens_colons_append hp, tokens_token_append hs ht]
  rcases colons_or_first_token t with hct | ⟨q, tok, t', rfl, hq, htok, ht'⟩
  · simp [tokens_colons hct]
  · -- `t` holds a token, which is then the second token of the whole text
    exact absurd ⟨tok, p, s, q, t', by simp, hp, hs, ne_nil_of_follows_append htok ht, hq, htok, ht'⟩ h

end Second

/-! ### The address of a URI -/

/-- The address of a URI is read from the second of its tokens. --/
theorem ipFromUri_of_tokens {uri : String} {s tok : List Char} {rest : List (List Char)}
    (h : tokens uri.toList = s :: tok :: rest) : ipFromUri uri = Net.Ipv4.read? (String.ofList tok) := by
  have hu : (split ':' uri.toList).filter (!·.isEmpty) = s :: tok :: rest := h
  delta ipFromUri
  rw [hu]
  rfl

/-- A URI of at most one token names no address. --/
theorem ipFromUri_of_length_tokens {uri : String} (h : (tokens uri.toList).length ≤ 1) : ipFromUri uri = none := by
  have hu : ((split ':' uri.toList).filter (!·.isEmpty)).drop 1 = [] := List.drop_eq_nil_of_le h
  delta ipFromUri
  rw [hu]

/-- A URI's address is its second token read as a dotted quad. --/
theorem ipFromUri_of_secondToken {uri : String} {tok : List Char} (h : SecondToken uri.toList tok) :
    ipFromUri uri = Net.Ipv4.read? (String.ofList tok) := by
  obtain ⟨s, rest, hu⟩ := tokens_of_secondToken h
  exact ipFromUri_of_tokens hu

/-- A URI without a second token names no address. --/
theorem ipFromUri_of_no_secondToken {uri : String} (h : ¬∃ tok, SecondToken uri.toList tok) :
    ipFromUri uri = none :=
  ipFromUri_of_length_tokens (length_tokens_le_one h)

/-- A scheme, colons, an address and what may follow a token: the address is the second token. --/
theorem secondToken_render {p s q t : List Char} (hp : Colons p) (hs : Token s) (hq : q ≠ []) (hqc : Colons q)
    (ht : Follows t) (a : Net.Ipv4) : SecondToken (p ++ s ++ q ++ a.render.toList ++ t) a.render.toList := by
  have hsep : ':' ∉ a.render.toList := (Net.Ipv4.spelled_render a).not_mem (by decide) (by decide)
  have hne : a.render.toList ≠ [] := by simp [Net.Ipv4.render_toList, List.intercalate]
  exact ⟨p, s, q, t, rfl, hp, hs, hq, hqc, ⟨hne, hsep⟩, ht⟩

theorem colons_replicate (n : Nat) : Colons (List.replicate n ':') :=
  fun _ h => List.eq_of_mem_replicate h

/-- The address of a URI is its second token read as a dotted quad, whatever the other tokens and
    colons are; a URI without a second token names none. So the address of a scheme and an address
    joined by colons, with colons before and with nothing or a colon and anything after, is that
    address. --/
theorem ipFromUri_reads_second_token :
    (∀ (u : String) (tok : List Char), SecondToken u.toList tok → ipFromUri u = Net.Ipv4.read? (String.ofList tok)) ∧
    (∀ (u : List Char) (tok tok' : List Char), SecondToken u tok → SecondToken u tok' → tok = tok') ∧
    (∀ u : String, (¬∃ tok, SecondToken u.toList tok) → ipFromUri u = none) ∧
    (∀ (i j : Nat) (scheme tail : String) (a : Net.Ipv4), scheme ≠ "" → ':' ∉ scheme.toList →
      (tail = "" ∨ tail.toList.head? = some ':') →
      ipFromUri (String.ofList (List.replicate i ':') ++ scheme ++ String.ofList (List.replicate (j + 1) ':') ++
        a.render ++ tail) = some a) := by
  refine ⟨fun _ _ h => ipFromUri_of_secondToken h, fun _ _ _ h h' => h.unique h',
    fun _ h => ipFromUri_of_no_secondToken h, ?_⟩
  intro i j scheme tail a hscheme hcolon htail
  have hs : Token scheme.toList := ⟨by simpa using hscheme, hcolon⟩
  have ht : Follows tail.toList := by
    rcases htail with rfl | h
    · intro c hc
      simp at hc
    · intro c hc
      exact Option.some.inj (hc.symm.trans h)
  have h := secondToken_render (colons_replicate i) hs (by simp) (colons_replicate (j + 1)) ht a
  rw [@ipFromUri_of_secondToken _ a.render.toList ?_, String.ofList_toList, Net.Ipv4.read?_render]
  simpa only [String.toList_append, String.toList_ofList] using h

/-- `:tcp::10.0.0.4:` names `10.0.0.4`. --/
theorem ipFromUri_colons_around :
    ("tcp" ≠ "" ∧ ':' ∉ "tcp".toList ∧ (":" = "" ∨ ":".toList.head? = some ':')) ∧
      ipFromUri (String.ofList (List.replicate 1 ':') ++ "tcp" ++ String.ofList (List.replicate 2 ':') ++
        (⟨10, 0, 0, 4⟩ : Net.Ipv4).render ++ ":") = some ⟨10, 0, 0, 4⟩ := by
  have hs : "tcp" ≠ "" := by decide
  have hc : ':' ∉ "tcp".toList := by decide
  have ht : ":" = "" ∨ ":".toList.head? = some ':' := .inr (by decide)
  exact ⟨⟨hs, hc, ht⟩, ipFromUri_reads_second_token.2.2.2 1 1 "tcp" ":" ⟨10, 0, 0, 4⟩ hs hc ht⟩

end Uri
end LiveMigration
