import DiagramText.Proofs.Yaml.Readers
import DiagramText.Yaml.Token.Stream

/-!
# Tokens stay inside the text

1. `Lexer.Within N`: the cursor, the tokens and the possible keys of a lexer are on the lines `0` to
   `N`.  The bookkeeping and every kind of token keep it.
2. `stays_fetch`, for one token, and `TokenStream.within_ofText`, for all tokens of a text.
-/

namespace DiagramText.Yaml

variable {N : Nat}

namespace Lexer

/-- A lexer that is on the lines `0` to `N` with all that it remembers. -/
structure Within (N : Nat) (l : Lexer) : Prop where
  cursor : l.cursor.Within N
  tokens : ∀ t ∈ l.tokens, t.line ≤ N
  keys : ∀ k ∈ l.keys, k.2.place.line ≤ N

variable {l : Lexer}

/-! ## Bookkeeping -/

theorem Within.push (h : l.Within N) (kind : TokenKind) {start : Cursor}
    (hstart : start.Within N) : (l.push kind start).Within N where
  cursor := h.cursor
  tokens := by
    intro t ht
    rcases Array.mem_push.1 ht with ht | rfl
    · exact h.tokens t ht
    · exact hstart.line_le
  keys := h.keys

theorem Within.pushSign (h : l.Within N) (kind : TokenKind) (n : Nat) :
    (l.pushSign kind n).Within N :=
  have hpush := h.push kind h.cursor
  ⟨h.cursor.skip n, hpush.tokens, hpush.keys⟩

theorem stays_dropKey (h : l.Within N) : Stays N (Within N) l.dropKey := by
  unfold dropKey
  split
  · exact h.cursor.fail _
  · exact .ok ⟨h.cursor, h.tokens, fun k hk => h.keys k (List.mem_filter.1 hk).1⟩

theorem stays_noteKey (h : l.Within N) : Stays N (Within N) l.noteKey := by
  unfold noteKey
  split
  · refine Stays.bind (stays_dropKey h) fun m hm => ?_
    refine .ok ⟨hm.cursor, hm.tokens, fun k hk => ?_⟩
    rcases List.mem_append.1 hk with hk | hk
    · exact hm.keys k hk
    · rw [List.mem_singleton.1 hk]
      exact hm.cursor.line_le
  · exact .ok h

theorem stays_dropStaleKeys (h : l.Within N) : Stays N (Within N) l.dropStaleKeys := by
  unfold dropStaleKeys
  split
  · exact h.cursor.fail _
  · exact .ok ⟨h.cursor, h.tokens, fun k hk => h.keys k (List.mem_filter.1 hk).1⟩

theorem Within.deepen? (h : l.Within N) {column : Nat} {m : Lexer}
    (hm : l.deepen? column = some m) : m.Within N := by
  unfold Lexer.deepen? at hm
  split at hm
  · cases hm
    exact ⟨h.cursor, h.tokens, h.keys⟩
  · cases hm

theorem Within.openBlock (h : l.Within N) (kind : TokenKind) : (l.openBlock kind).Within N := by
  unfold Lexer.openBlock
  split
  · rename_i m hm
    have hdeeper := h.deepen? hm
    exact hdeeper.push kind hdeeper.cursor
  · exact h

theorem within_endBlocks (column : Int) (outer : List Int) (h : l.Within N) :
    (endBlocks column outer l).Within N := by
  induction outer generalizing l with
  | nil => exact h
  | cons i outer ih =>
    unfold endBlocks
    split
    · have hpush := h.push .blockEnd h.cursor
      exact ih ⟨hpush.cursor, hpush.tokens, hpush.keys⟩
    · exact h

theorem Within.unwind (h : l.Within N) (column : Int) : (l.unwind column).Within N := by
  unfold Lexer.unwind
  split
  · exact h
  · exact within_endBlocks column _ h

theorem within_nextPlace (fuel : Nat) {c : Cursor} (h : c.Within N) :
    (nextPlace fuel c).1.Within N := by
  induction fuel generalizing c with
  | zero => exact h
  | succ fuel ih =>
    have hcomment : Cursor.Within N (if (c.skipRun (· == ' ')).peek = '#' then
        (c.skipRun (· == ' ')).skipRun (!isLineEnd ·) else c.skipRun (· == ' ')) := by
      split
      · exact (h.skipRun _).skipRun _
      · exact h.skipRun _
    unfold nextPlace
    dsimp only
    generalize (if (c.skipRun (· == ' ')).peek = '#' then
      (c.skipRun (· == ' ')).skipRun (!isLineEnd ·) else c.skipRun (· == ' ')) = d at hcomment ⊢
    split
    · exact ih hcomment.next
    · exact hcomment

theorem Within.advance (h : l.Within N) : l.advance.Within N := by
  have hmark : Cursor.Within N
      (if l.cursor.index = 0 ∧ l.cursor.peek = '\ufeff' then l.cursor.next else l.cursor) := by
    split
    · exact h.cursor.next
    · exact h.cursor
  unfold Lexer.advance
  dsimp only
  generalize (if l.cursor.index = 0 ∧ l.cursor.peek = '\ufeff' then l.cursor.next
    else l.cursor) = c at hmark ⊢
  exact ⟨within_nextPlace _ hmark, h.tokens, h.keys⟩

theorem stays_leaveBlocks (h : l.Within N) : Stays N (Within N) l.leaveBlocks := by
  unfold leaveBlocks
  refine Stays.bind (stays_dropKey (h.unwind _)) fun m hm => ?_
  exact .ok ⟨hm.cursor, hm.tokens, hm.keys⟩

theorem stays_enterBlock (h : l.Within N) (kind : TokenKind) (problem : String) :
    Stays N (Within N) (l.enterBlock kind problem) := by
  unfold enterBlock
  split
  · exact .ok h
  · split
    · exact .ok (h.openBlock kind)
    · exact h.cursor.fail _

theorem Within.insertKey (h : l.Within N) {k : KeyStart} (hk : k.place.line ≤ N) :
    (l.insertKey k).Within N := by
  have hinsert {l : Lexer} (h : l.Within N) (kind : TokenKind) : Within N
      { l with tokens := l.tokens.insertIdxIfInBounds k.number ⟨kind, k.place.line⟩ } := by
    refine ⟨h.cursor, fun t ht => ?_, h.keys⟩
    dsimp only at ht
    unfold Array.insertIdxIfInBounds at ht
    split at ht
    · rcases Array.mem_insertIdx.1 ht with rfl | ht
      · exact hk
      · exact h.tokens t ht
    · exact h.tokens t ht
  have hkey : Within N { l with keys := l.keys.filter (·.1 != l.depth) } :=
    ⟨h.cursor, h.tokens, fun k hk => h.keys k (List.mem_filter.1 hk).1⟩
  unfold Lexer.insertKey
  dsimp only
  split
  · exact hinsert hkey .key
  · split
    · rename_i m hm
      exact hinsert ((hinsert hkey .key).deepen? hm) .blockMappingStart
    · exact hinsert hkey .key

/-! ## Tokens -/

theorem stays_fetchEnd (h : l.Within N) : Stays N (Within N) l.fetchEnd := by
  unfold fetchEnd
  refine Stays.bind (stays_leaveBlocks h) fun m hm => ?_
  have hpush := hm.push .streamEnd h.cursor
  exact .ok ⟨hpush.cursor, hpush.tokens, nofun⟩

theorem stays_fetchDirective (h : l.Within N) : Stays N (Within N) l.fetchDirective := by
  unfold fetchDirective
  refine Stays.bind (stays_leaveBlocks h) fun m hm => ?_
  refine Stays.bind (stays_directive hm.cursor) fun r hr => ?_
  have hpush := hm.push (.directive r.1) hm.cursor
  exact .ok ⟨hr, hpush.tokens, hpush.keys⟩

theorem stays_fetchSeparator (h : l.Within N) (kind : TokenKind) :
    Stays N (Within N) (l.fetchSeparator kind) := by
  unfold fetchSeparator
  exact Stays.bind (stays_leaveBlocks h) fun m hm => .ok (hm.pushSign kind 3)

theorem stays_fetchOpening (h : l.Within N) (kind : TokenKind) :
    Stays N (Within N) (l.fetchOpening kind) := by
  unfold fetchOpening
  refine Stays.bind (stays_noteKey h) fun m hm => ?_
  have hsign := hm.pushSign kind 1
  exact .ok ⟨hsign.cursor, hsign.tokens, hsign.keys⟩

theorem stays_fetchClosing (h : l.Within N) (kind : TokenKind) :
    Stays N (Within N) (l.fetchClosing kind) := by
  unfold fetchClosing
  refine Stays.bind (stays_dropKey h) fun m hm => ?_
  have hsign := hm.pushSign kind 1
  exact .ok ⟨hsign.cursor, hsign.tokens, hsign.keys⟩

/-- A sign behind which the possible key of this depth is forgotten. -/
theorem stays_dropKey_pushSign (h : l.Within N) (kind : TokenKind) (keyAllowed : Bool) :
    Stays N (Within N) (do return { (← l.dropKey).pushSign kind 1 with keyAllowed }) := by
  refine Stays.bind (stays_dropKey h) fun m hm => ?_
  have hsign := hm.pushSign kind 1
  exact .ok ⟨hsign.cursor, hsign.tokens, hsign.keys⟩

theorem stays_fetchFlowEntry (h : l.Within N) : Stays N (Within N) l.fetchFlowEntry :=
  stays_dropKey_pushSign h .flowEntry true

theorem stays_fetchBlockEntry (h : l.Within N) : Stays N (Within N) l.fetchBlockEntry := by
  unfold fetchBlockEntry
  refine Stays.bind (stays_enterBlock h _ _) fun m hm => ?_
  exact stays_dropKey_pushSign hm .blockEntry true

theorem stays_fetchKey (h : l.Within N) : Stays N (Within N) l.fetchKey := by
  unfold fetchKey
  refine Stays.bind (stays_enterBlock h _ _) fun m hm => ?_
  exact stays_dropKey_pushSign hm .key _

theorem stays_fetchValue (h : l.Within N) : Stays N (Within N) l.fetchValue := by
  unfold fetchValue
  split
  · rename_i k hk
    obtain ⟨before, after, hkeys, -⟩ := List.lookup_eq_some_iff.1 hk
    have hmem : (l.depth, k) ∈ l.keys := by
      rw [hkeys]
      exact List.mem_append_right _ List.mem_cons_self
    have hsign := (h.insertKey (h.keys _ hmem)).pushSign .value 1
    exact .ok ⟨hsign.cursor, hsign.tokens, hsign.keys⟩
  · refine Stays.bind (stays_enterBlock h _ _) fun m hm => ?_
    exact stays_dropKey_pushSign hm .value _

theorem stays_fetchInline (h : l.Within N) {read : Reader TokenKind}
    (hread : ∀ {c : Cursor}, c.Within N → Stays N (Leaves N) (read c)) :
    Stays N (Within N) (l.fetchInline read) := by
  unfold fetchInline
  refine Stays.bind (stays_noteKey h) fun m hm => ?_
  refine Stays.bind (hread hm.cursor) fun r hr => ?_
  have hpush := hm.push r.1 hm.cursor
  exact .ok ⟨hr, hpush.tokens, hpush.keys⟩

theorem stays_fetchPlain (h : l.Within N) : Stays N (Within N) l.fetchPlain := by
  unfold fetchPlain
  refine Stays.bind (stays_noteKey h) fun m hm => ?_
  have hplain := within_plainScalar m.inFlow m.indent hm.cursor
  have hpush := hm.push
    (.scalar (String.ofList (plainScalar m.inFlow m.indent m.cursor).text) true) hm.cursor
  exact .ok ⟨hplain, hpush.tokens, hpush.keys⟩

theorem stays_fetchBlockScalar (h : l.Within N) (folded : Bool) :
    Stays N (Within N) (l.fetchBlockScalar folded) := by
  unfold fetchBlockScalar
  refine Stays.bind (stays_dropKey h) fun m hm => ?_
  refine Stays.bind (stays_blockScalar folded m.indent hm.cursor.next) fun r hr => ?_
  have hpush := hm.push (.scalar r.1 false) hm.cursor
  exact .ok ⟨hr, hpush.tokens, hpush.keys⟩

theorem stays_inlineReader? {ch : Char} {read : Reader TokenKind}
    (hread : inlineReader? ch = some read) {c : Cursor} (h : c.Within N) :
    Stays N (Leaves N) (read c) := by
  unfold inlineReader? at hread
  split at hread
  · cases hread
    exact Stays.bind (stays_nameBefore _ h.next) fun r hr => .ok hr
  · cases hread
    exact Stays.bind (stays_nameBefore _ h.next) fun r hr => .ok hr
  · cases hread
    exact Stays.bind (stays_tag h) fun r hr => .ok hr
  · cases hread
    exact Stays.bind (stays_quotedScalar _ h.next) fun r hr => .ok hr
  · cases hread
    exact Stays.bind (stays_quotedScalar _ h.next) fun r hr => .ok hr
  · cases hread

theorem stays_fetchOther (h : l.Within N) : Stays N (Within N) l.fetchOther := by
  unfold fetchOther
  split
  · rename_i read hread
    exact stays_fetchInline h (stays_inlineReader? hread)
  · split
    · exact stays_fetchPlain h
    · exact h.cursor.fail _

theorem stays_fetchHere (h : l.Within N) : Stays N (Within N) l.fetchHere := by
  unfold fetchHere
  dsimp only
  split
  · exact stays_fetchDirective h
  · split
    · exact stays_fetchSeparator h _
    · split
      · exact stays_fetchOpening h _
      · exact stays_fetchOpening h _
      · exact stays_fetchClosing h _
      · exact stays_fetchClosing h _
      · exact stays_fetchFlowEntry h
      · split
        · exact stays_fetchBlockEntry h
        · exact stays_fetchOther h
      · split
        · exact stays_fetchKey h
        · exact stays_fetchOther h
      · split
        · exact stays_fetchValue h
        · exact stays_fetchOther h
      · split
        · exact stays_fetchOther h
        · exact stays_fetchBlockScalar h _
      · split
        · exact stays_fetchOther h
        · exact stays_fetchBlockScalar h _
      · exact stays_fetchOther h

theorem stays_fetch (h : l.Within N) : Stays N (Within N) l.fetch := by
  unfold fetch
  refine Stays.bind (stays_dropStaleKeys h.advance) fun m hm => ?_
  dsimp only
  split
  · exact Stays.bind (stays_fetchEnd (hm.unwind _)) fun m hm => stays_dropStaleKeys hm
  · exact Stays.bind (stays_fetchHere (hm.unwind _)) fun m hm => stays_dropStaleKeys hm

end Lexer

/-! ## Streams -/

namespace TokenStream

/-- A stream whose tokens and failure are on the lines `0` to `N`. -/
structure Within (N : Nat) (s : TokenStream) : Prop where
  tokens : ∀ t ∈ s.tokens, t.line ≤ N
  failure : ∀ f ∈ s.failure, f.Within N

theorem within_ofLexer (fuel : Nat) {l : Lexer} (h : l.Within N) : (ofLexer fuel l).Within N := by
  have htokens {l : Lexer} (h : l.Within N) : ∀ t ∈ l.tokens.toList, t.line ≤ N :=
    fun t ht => h.tokens t (Array.mem_toList_iff.1 ht)
  induction fuel generalizing l with
  | zero => exact ⟨htokens h, nofun⟩
  | succ fuel ih =>
    have hfetch := Lexer.stays_fetch h
    unfold ofLexer
    cases hl : l.fetch with
    | error f =>
      rw [hl] at hfetch
      cases hfetch with
      | error hf =>
        refine ⟨fun t ht => htokens h t (List.mem_of_mem_take ht), ?_⟩
        rintro g ⟨rfl⟩
        exact hf
    | ok m =>
      rw [hl] at hfetch
      cases hfetch with
      | ok hm =>
        dsimp only
        split
        · exact ⟨htokens hm, nofun⟩
        · exact ih hm

/-- The tokens of a text are on its lines, and so is the failure that ends them. -/
theorem within_ofText (text : List Char) : (ofText text).Within (text.count '\n') := by
  refine within_ofLexer _ ⟨?_, nofun, nofun⟩
  unfold Cursor.Within
  dsimp only
  omega

end TokenStream

end DiagramText.Yaml
