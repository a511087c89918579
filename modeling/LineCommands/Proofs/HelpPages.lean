import LineCommands.Proofs.TokenRoundTrip
import LineCommands.Proofs.IntegerTokens
import LineCommands.Proofs.ArgumentDiagnostics
import LineCommands.Proofs.TextBytes
/-!
# Paged help

The help command lists the registry's commands, sorted by name, `k` to a page, where `k` is
its page size raised to at least one. Asked on an empty argument line or on one unsigned
32-bit page number, it always succeeds: it shows page `P` of `M`, where `M` is `⌈n / k⌉` for
`n` commands (one page when there are none) and `P` is the requested page, one when none is
asked for, clamped into `1 .. M`. The page lists the commands from index `(P - 1) * k` up to
`min (P * k) n`, and its footer names page `P + 1` exactly when there is one.

The count the program computes, `(n - 1) / k + 1`, is the ceiling without a division of a sum,
and the first index of a page, `(P - 1) * k`, stays below `max n 1`; so no intermediate value
exceeds the number of commands or one. Taken together, pages `1 .. M` list every command once,
in order.

## What this module delivers

- `helpPageCount_eq_ceil`, `helpPage_clamp`, `extract_page`: the arithmetic of a page.
- `flatMap_pages`: consecutive pages list the commands in order.
- `RunM.ask_run`, `RunM.optionalInteger_run`, `RunM.finish_run`, `Registry.run_help`: a help
  run whose page request is answered.
- `PageArgument` and `PageArgument.read`: the argument lines help accepts, and what the page
  request reads from them; `IntegerLiteral.Literal.tokenSpelling`: a literal line is one bare
  token.
- `help_paginates`: the main statement.
-/

namespace LineCommands

/-! ## The arithmetic of pages -/

/-- **The page count is the ceiling of `n / k`**, and one when there are no commands. -/
theorem helpPageCount_eq_ceil (n : Nat) {k : Nat} (hk : 0 < k) :
    helpPageCount n k = max 1 ((n + k - 1) / k) := by
  unfold helpPageCount
  cases n with
  | zero =>
    rw [Nat.div_eq_of_lt (by omega : 0 + k - 1 < k)]
    simp
  | succ m =>
    rw [show m + 1 + k - 1 = m + k by omega, Nat.add_div_right m hk]
    simp

/-- The page shown is the requested one, one when none is, clamped into the pages there are. -/
theorem helpPage_clamp (p : Option Nat) {pages : Nat} (hpages : 1 ≤ pages) :
    helpPage (p.map Int.ofNat) pages = max 1 (min (p.getD 1) pages) := by
  cases p <;> simp [helpPage] <;> omega

/-- Every page, the last included, starts within the commands, and there are no more pages than
commands (or one): the program's page arithmetic stays below `max n 1`. -/
theorem helpPage_start_lt (n k : Nat) (requested : Option Int) :
    (helpPage requested (helpPageCount n k) - 1) * k < max n 1 ∧
      helpPageCount n k ≤ max n 1 := by
  have hpage : helpPage requested (helpPageCount n k) ≤ helpPageCount n k := Nat.min_le_right _ _
  unfold helpPageCount at hpage ⊢
  have hdiv : (n - 1) / k * k ≤ n - 1 := Nat.div_mul_le_self (n - 1) k
  have hcount : (n - 1) / k ≤ n - 1 := Nat.div_le_self (n - 1) k
  generalize (n - 1) / k = q at hpage hdiv hcount ⊢
  generalize helpPage requested (q + 1) = page at hpage ⊢
  -- the last page starts at `q * k`, which is at most `n - 1`
  have hstart : (page - 1) * k ≤ q * k := Nat.mul_le_mul_right k (by omega)
  omega

/-- A page of `k` entries read from index `a` is the slice from `a` up to `min (a + k) n`. -/
theorem extract_page {α : Type} (l : List α) (a k : Nat) :
    l.extract a (min (a + k) l.length) = (l.drop a).take k := by
  rw [List.extract_eq_take_drop, List.take_eq_take_iff, List.length_drop]
  omega

/-- **Consecutive pages list the commands in order**: the first `m` pages of `k` entries are the
first `m * k` entries. -/
theorem flatMap_pages {α : Type} (l : List α) (k m : Nat) :
    (List.range m).flatMap (fun i => (l.drop (i * k)).take k) = l.take (m * k) := by
  induction m with
  | zero => simp
  | succ m ih =>
    rw [List.range_succ, List.flatMap_append, ih, List.flatMap_singleton, Nat.succ_mul,
      List.take_add]

/-! ## A help run -/

namespace RunM

/-- A request the cursor answers hands its answer to the run and leaves the cursor it moved
to. -/
theorem ask_run {r : Request} {st : RunState} {cur' : Cursor} {a : Answer}
    (h : st.cursor.answer r = (cur', .ok a)) :
    ((ask r).run st).run = (.ok a, { st with cursor := cur' }) := by
  unfold ask
  rw [run_bind_ok (show ((get : RunM RunState).run st).run = (.ok st, st) from rfl)]
  simp only [h]
  rfl

theorem optionalInteger_run {k : ArgKind} {cur cur' : Cursor} {requested : Option Int}
    (hread : cur.read (.integer k) false = (cur', .ok (requested.map Presented.integer))) :
    ((optionalInteger k).run { cursor := cur }).run = (.ok requested, { cursor := cur' }) := by
  have hans : (({ cursor := cur } : RunState).cursor.answer (.read (.integer k) false)) =
      (cur', .ok (((requested.map Presented.integer).map Answer.presented).getD .nothing)) := by
    simp only [Cursor.answer, hread]
    rfl
  unfold optionalInteger
  rw [run_bind_ok (ask_run hans)]
  cases requested <;> rfl

theorem finish_run {cur : Cursor} (h : cur.exhausted = true) :
    (finish.run { cursor := cur }).run = (.ok (), { cursor := cur }) := by
  have hans : (({ cursor := cur } : RunState).cursor.answer .finish) = (cur, .ok .nothing) := by
    simp only [Cursor.answer, Cursor.finish, h, if_true]
    rfl
  unfold finish
  rw [run_bind_ok (ask_run hans)]
  rfl

end RunM

/-- **A help run whose page request is answered** writes the help text of the requested page
and succeeds, with nothing recorded: the page request leaves the cursor exhausted, so `finish`
passes. -/
theorem Registry.run_help {reg : Registry} {invokedAs : String} {handle size : Nat}
    {cur cur' : Cursor} {requested : Option Int}
    (hread : cur.read (.integer .u32) false = (cur', .ok (requested.map Presented.integer)))
    (hfin : cur'.exhausted = true) :
    reg.run invokedAs (Command.help handle size) cur =
      ⟨true, Bytes.ofString (helpText reg invokedAs (max size 1) requested), []⟩ := by
  have hrun : (((Command.help handle size).execute reg invokedAs).run { cursor := cur }).run =
      (.ok (), { cursor := cur', out := Bytes.ofString (helpText reg invokedAs (max size 1) requested) }) := by
    show ((RunM.optionalInteger .u32 >>= fun requested => RunM.finish >>= fun _ =>
      RunM.say (helpText reg invokedAs (max size 1) requested)).run { cursor := cur }).run = _
    rw [RunM.run_bind_ok (RunM.optionalInteger_run hread), RunM.run_bind_ok (RunM.finish_run hfin)]
    rfl
  simp only [Registry.run, hrun]

/-! ## The page argument -/

/-- An argument line of paged help: empty, or one decimal literal of an unsigned 32-bit page
number (a sign and leading zeros allowed), which asks for that page. -/
inductive PageArgument : String → Option Nat → Prop where
  | empty : PageArgument "" none
  | literal {s : String} {v : Int} : IntegerLiteral.Literal s.toList v → 0 ≤ v →
      v ≤ 4294967295 → PageArgument s (some v.toNat)

namespace IntegerLiteral

/-- A literal is written in ASCII signs and digits, none of them a space, a quote or a
backslash. -/
theorem Literal.char_range {cs : List Char} {v : Int} (h : Literal cs v) :
    ∀ c ∈ cs, (c.toNat = 43 ∨ c.toNat = 45 ∨ 48 ≤ c.toNat ∧ c.toNat ≤ 57) := by
  have digit : ∀ {ds : List Char}, AllDigits ds → ∀ c ∈ ds,
      (c.toNat = 43 ∨ c.toNat = 45 ∨ 48 ≤ c.toNat ∧ c.toNat ≤ 57) := by
    intro ds hd c hc
    have := hd c hc
    simp only [Char.isDigit, Bool.and_eq_true, decide_eq_true_eq] at this
    right; right
    exact ⟨this.1, this.2⟩
  cases h with
  | bare _ hd => exact digit hd
  | plus _ hd =>
    intro c hc
    rcases List.mem_cons.1 hc with rfl | hc
    · exact .inl rfl
    · exact digit hd c hc
  | minus _ hd =>
    intro c hc
    rcases List.mem_cons.1 hc with rfl | hc
    · exact .inr (.inl rfl)
    · exact digit hd c hc

theorem Literal.ne_nil {cs : List Char} {v : Int} (h : Literal cs v) : cs ≠ [] := by
  cases h <;> simp_all

end IntegerLiteral

/-- The UTF-8 forms of ASCII characters are their codes. -/
theorem flatMap_utf8EncodeChar_of_ascii (l : List Char) (h : ∀ c ∈ l, c.toNat < 128) :
    l.flatMap String.utf8EncodeChar = l.map Char.toUInt8 := by
  induction l with
  | nil => rfl
  | cons c l ih =>
    have hc : c.utf8Size = 1 := by
      rw [Char.utf8Size_eq_one_iff, UInt32.le_iff_toNat_le]
      have h1 := h c (by simp)
      have h2 : c.toNat = c.val.toNat := rfl
      have h3 : (127 : UInt32).toNat = 127 := rfl
      omega
    rw [List.flatMap_cons, String.utf8EncodeChar_eq_singleton hc, Char.toUInt8_val, List.map_cons,
      ih fun d hd => h d (List.mem_cons_of_mem c hd)]
    rfl

theorem toNat_toUInt8_of_ascii {c : Char} (h : c.toNat < 128) : c.toUInt8.toNat = c.toNat := by
  rw [← Char.toUInt8_val, UInt32.toNat_toUInt8]
  have : c.toNat = c.val.toNat := rfl
  omega

namespace Spelling

/-- ASCII bytes that are neither a backslash nor a space are a bare token's spelling of
themselves. -/
theorem spelled_bare_plain {bs : Bytes} (h : ∀ b ∈ bs, b.toNat < 0x80 ∧ b ≠ 92 ∧ b ≠ 32) :
    Spelled .bare bs bs := by
  induction bs with
  | nil => exact .nil
  | cons b bs ih =>
    obtain ⟨hlt, hbs, hsp⟩ := h b (by simp)
    exact .cons (d := [b]) (w := [b]) (.literal hlt hbs hsp)
      (ih fun x hx => h x (List.mem_cons_of_mem b hx))

end Spelling

namespace IntegerLiteral

/-- **A literal's bytes are its characters' codes**, and none of them is a space, a quote or a
backslash. -/
theorem Literal.ofString_plain {s : String} {v : Int} (hlit : Literal s.toList v) :
    Bytes.ofString s = s.toList.map Char.toUInt8 ∧
      ∀ b ∈ Bytes.ofString s, b.toNat < 0x80 ∧ b ≠ 92 ∧ b ≠ 32 ∧ b ≠ 39 ∧ b ≠ 34 := by
  have hchars := hlit.char_range
  have hascii : ∀ c ∈ s.toList, c.toNat < 128 := fun c hc => by
    have := hchars c hc
    omega
  have hbytes : Bytes.ofString s = s.toList.map Char.toUInt8 := by
    rw [Bytes.ofString_eq_flatMap, flatMap_utf8EncodeChar_of_ascii _ hascii]
  refine ⟨hbytes, ?_⟩
  rw [hbytes]
  intro b hb
  obtain ⟨c, hc, rfl⟩ := List.mem_map.1 hb
  have hcode := toNat_toUInt8_of_ascii (hascii c hc)
  have := hchars c hc
  refine ⟨by omega, ?_, ?_, ?_, ?_⟩ <;> intro he <;> rw [he] at hcode <;> simp at hcode <;>
    omega

/-- A literal line is one bare token that spells itself. -/
theorem Literal.tokenSpelling {s : String} {v : Int} (hlit : Literal s.toList v) :
    Spelling.TokenSpelling (Bytes.ofString s) (Bytes.ofString s) := by
  obtain ⟨hbytes, hplain⟩ := hlit.ofString_plain
  have hne : Bytes.ofString s ≠ [] := by
    rw [hbytes]
    simpa using hlit.ne_nil
  -- it opens with a sign or a digit, not a quote
  have hhead : ∀ q, (Bytes.ofString s).head? = some q → q ≠ 39 ∧ q ≠ 34 := fun q hq =>
    have h := hplain q (List.mem_of_head? hq)
    ⟨h.2.2.2.1, h.2.2.2.2⟩
  exact .bare hne (Spelling.spelled_bare_plain fun b hb =>
      ⟨(hplain b hb).1, (hplain b hb).2.1, (hplain b hb).2.2.1⟩)
    (fun hq => (hhead 39 hq).1 rfl) (fun hq => (hhead 34 hq).2 rfl)

end IntegerLiteral

/-- **The page request reads a literal line as its number**, and leaves the cursor exhausted:
the line is one bare token of signs and digits. -/
theorem PageArgument.read_literal {s : String} {v : Int} (hlit : IntegerLiteral.Literal s.toList v)
    (hlo : 0 ≤ v) (hhi : v ≤ 4294967295) (types : Option TypeTable) :
    ∃ cur', (Cursor.line (LineCursor.ofString s types)).read (.integer .u32) false =
      (cur', .ok (some (.integer v))) ∧ cur'.exhausted = true := by
  -- the number is in the range of the page request's kind
  obtain ⟨w, hw⟩ : ∃ w, ArgValue.ofInt? .u32 v = some w := by
    cases hw : ArgValue.ofInt? .u32 v with
    | some w => exact ⟨w, rfl⟩
    | none => exact absurd ⟨hlo, hhi⟩ ((ArgValue.ofInt?_eq_none_iff rfl).1 hw)
  obtain ⟨-, hkind, hint⟩ := (ArgValue.ofInt?_eq_some_iff rfl).1 hw
  have hread : ArgValue.read .u32 (Bytes.ofString s) = .ok w :=
    (ArgValue.read_integer_token rfl _ _).2
      (.value (Utf8.toText?_ofString s) hlit hlo hhi hkind hint)
  -- the line is that one token, with no spaces before it
  have hrest : (LineCursor.ofString s types).restBytes =
      List.replicate 0 32 ++ (Bytes.ofString s ++ []) := by
    simp [LineCursor.ofString, LineCursor.restBytes]
  have hnext := (LineCursor.ofString s types).nextValue_of_spelling (by decide) (by decide) rfl
    hrest hlit.tokenSpelling (.inl rfl) false hread
  refine ⟨.line { LineCursor.ofString s types with pos := (Bytes.ofString s).length, argPos := 1 },
    ?_, ?_⟩
  · simp only [Cursor.read, Cursor.nextValue, Shape.kind, hnext, Shape.present, hkind, hint,
      if_true, Option.map_some]
    simp [LineCursor.ofString]
  · simp [Cursor.exhausted, LineCursor.exhausted, LineCursor.tokenStart, LineCursor.ofString]

/-- **What the page request reads from an argument line**: nothing from an empty line, and
the page number from a literal; either way it leaves the cursor exhausted. -/
theorem PageArgument.read {args : String} {p : Option Nat} (h : PageArgument args p)
    (types : Option TypeTable) :
    ∃ cur', (Cursor.line (LineCursor.ofString args types)).read (.integer .u32) false =
      (cur', .ok ((p.map Int.ofNat).map Presented.integer)) ∧ cur'.exhausted = true := by
  cases h with
  | empty =>
    have hempty : Bytes.ofString "" = [] := by
      rw [Bytes.ofString_eq_flatMap]
      rfl
    refine ⟨.line (LineCursor.ofString "" types), ?_, ?_⟩
    · simp [Cursor.read, Cursor.nextValue, LineCursor.nextValue, LineCursor.ofString, hempty,
        LineCursor.skipSpaces, LineCursor.tokenStart, LineCursor.restBytes, Token.leadingSpaces,
        LineCursor.missing, Shape.kind]
    · simp [Cursor.exhausted, LineCursor.exhausted, LineCursor.ofString, hempty]
  | literal hlit hlo hhi =>
    rw [Option.map_some, Int.ofNat_eq_natCast, Int.toNat_of_nonneg hlo]
    exact PageArgument.read_literal hlit hlo hhi types

/-- **The help text is the requested page of the commands**: its header, the slice of the
sorted commands the page covers, and a footer naming the next page when there is one, with the
program's page arithmetic read as the ceiling and the clamp. -/
theorem helpText_eq (reg : Registry) (invokedAs : String) {k : Nat} (hk : 0 < k)
    (p : Option Nat) {pages page : Nat}
    (hpages : max 1 ((reg.sortedCommands.length + k - 1) / k) = pages)
    (hpage : max 1 (min (p.getD 1) pages) = page) :
    helpText reg invokedAs k (p.map Int.ofNat) =
      s!"--- Help (page {page} of {pages}) ---\n" ++
        String.join ((reg.sortedCommands.extract ((page - 1) * k)
          (min (page * k) reg.sortedCommands.length)).map fun c =>
            c.usage c.name reg.style ++ ": " ++ c.description ++ "\n") ++
        if page < pages then
          "--- Next page: " ++ reg.style.commandPrefix ++ invokedAs ++ " " ++
            toString (page + 1) ++ " ---\n"
        else "--- This is the last page ---\n" := by
  have hcount : helpPageCount reg.sortedCommands.length k = pages := by
    rw [helpPageCount_eq_ceil _ hk, hpages]
  have hshown : helpPage (p.map Int.ofNat) pages = page := by
    rw [helpPage_clamp p (by omega), hpage]
  -- the page covers `k` commands from its first index: the slice up to `min (page * k) n`
  have hslice : reg.sortedCommands.extract ((page - 1) * k)
      (min (page * k) reg.sortedCommands.length) =
        (reg.sortedCommands.drop ((page - 1) * k)).take k := by
    rw [show page * k = (page - 1) * k + k by
      rw [← Nat.succ_mul, Nat.succ_eq_add_one, Nat.sub_add_cancel (by omega)], extract_page]
  unfold helpText
  dsimp only
  rw [hcount, hshown, hslice]

/-! ## The main statement -/

/-- **Help paginates the commands exactly.** Whatever the registry and the page size of a help
command (a size of zero counts as one), help asked on an empty argument line or on one unsigned
32-bit page number succeeds and records nothing. With `k` commands to a page and `n` commands,
it shows page `P` of `M`, where `M` is `⌈n / k⌉`, or one when there are no commands, and `P` is
the requested page (one when none is asked for) clamped into `1 .. M`; the page lists the
commands from index `(P - 1) * k` up to `min (P * k) n`, sorted by name, and its footer names
page `P + 1` exactly when `P < M`. The first index of a page stays below `max n 1` and the page
count at most `max n 1`, so no index arithmetic leaves the range of the command count; and
pages `1 .. M` together list every command once, in order. -/
theorem help_paginates (reg : Registry) (invokedAs : String) (handle size : Nat) {args : String}
    {p : Option Nat} (hargs : PageArgument args p) :
    let k := max size 1
    let cmds := reg.sortedCommands
    let pages := max 1 ((cmds.length + k - 1) / k)
    let page := max 1 (min (p.getD 1) pages)
    reg.run invokedAs (Command.help handle size)
        (.line (LineCursor.ofString args (some reg.types))) =
      ⟨true, Bytes.ofString (s!"--- Help (page {page} of {pages}) ---\n" ++
        String.join ((cmds.extract ((page - 1) * k) (min (page * k) cmds.length)).map fun c =>
          c.usage c.name reg.style ++ ": " ++ c.description ++ "\n") ++
        if page < pages then
          "--- Next page: " ++ reg.style.commandPrefix ++ invokedAs ++ " " ++
            toString (page + 1) ++ " ---\n"
        else "--- This is the last page ---\n"), []⟩ ∧
      (page - 1) * k < max cmds.length 1 ∧ pages ≤ max cmds.length 1 ∧
      (List.range pages).flatMap
        (fun i => cmds.extract (i * k) (min ((i + 1) * k) cmds.length)) = cmds := by
  intro k cmds pages page
  have hk : 0 < k := by simp [k]
  have hpages : helpPageCount cmds.length k = pages := helpPageCount_eq_ceil _ hk
  have hpage : helpPage (p.map Int.ofNat) pages = page := helpPage_clamp p (by simp [pages])
  -- a page of `k` entries from index `i * k` is the slice up to `min ((i + 1) * k) n`
  have hslice : ∀ i, cmds.extract (i * k) (min ((i + 1) * k) cmds.length) =
      (cmds.drop (i * k)).take k := fun i => by rw [Nat.succ_mul, extract_page]
  have hbound := helpPage_start_lt cmds.length k (p.map Int.ofNat)
  rw [hpages, hpage] at hbound
  refine ⟨?_, hbound.1, hbound.2, ?_⟩
  · obtain ⟨cur', hread, hfin⟩ := hargs.read (some reg.types)
    rw [Registry.run_help hread hfin, helpText_eq reg invokedAs hk p rfl rfl]
  · -- the pages reach past the last command
    have hceil := Nat.lt_div_mul_add (a := cmds.length + k - 1) hk
    have hcover : cmds.length ≤ pages * k :=
      Nat.le_trans (by omega) (Nat.mul_le_mul_right k (Nat.le_max_right 1 _))
    simp only [hslice, flatMap_pages]
    exact List.take_of_length_le hcover

/-- The largest page number, asked of a registry without commands: page one of one. -/
theorem help_paginates_largest_page :
    PageArgument "4294967295" (some 4294967295) ∧
      ({} : Registry).run "help" (Command.help 0 2)
          (.line (LineCursor.ofString "4294967295" (some NameMap.empty))) =
        ⟨true, Bytes.ofString "--- Help (page 1 of 1) ---\n--- This is the last page ---\n", []⟩ := by
  have hlit : IntegerLiteral.Literal "4294967295".toList 4294967295 :=
    .bare (by decide) (by simp [IntegerLiteral.AllDigits])
  have harg : PageArgument "4294967295" (some 4294967295) := .literal hlit (by decide) (by decide)
  refine ⟨harg, ?_⟩
  have hnone : ({} : Registry).sortedCommands = [] := List.mergeSort_nil
  rw [(help_paginates {} "help" 0 2 harg).1, hnone]
  congr 1

end LineCommands
