import ValueShadow.Proofs.PropertyType.Token

/-!
# Names cut out by bytes

`Token.scanBytes` goes through a text once and counts its bytes: it passes the characters of a name
up to the byte behind the last of them, and then cuts the name out of the whole text. Cutting
inside a character fails, and so would the scan. That never happens, and what is cut out are the
tokens of `Token.scan` (`Token.scanBytes_eq_scan`).
-/

namespace ValueShadow

namespace Token

/-- The part of the text between two bytes, if both are between characters. -/
def cut? (text : String) (start stop : String.Pos.Raw) : Option String :=
  if h : start.IsValid text ∧ stop.IsValid text ∧ start ≤ stop then
    some (String.extract (⟨start, h.1⟩ : text.Pos) ⟨stop, h.2.1⟩)
  else
    none

/-- Passes the name characters that the text goes on with: the byte behind them, and what is left
there. -/
def passName (here : String.Pos.Raw) : List Char → String.Pos.Raw × List Char
  | [] => (here, [])
  | c :: rest => if isNameChar c then passName (here + c) rest else (here, c :: rest)

/-- Nothing is put back. -/
theorem length_passName_le (here : String.Pos.Raw) (rest : List Char) :
    (passName here rest).2.length ≤ rest.length := by
  induction rest generalizing here with
  | nil => exact Nat.le_refl _
  | cons c rest ih =>
    rw [passName]
    split
    · exact Nat.le_succ_of_le (ih (here + c))
    · exact Nat.le_refl _

/-- The tokens of what the text goes on with at the byte, unless a name cannot be cut out. Here it is
asked last whether a character is part of a name. -/
def scanBytesFrom (text : String) (here : String.Pos.Raw) :
    List Char → Option (Except TypeProblem (List Token))
  | [] => some (.ok [])
  | c :: rest =>
    match ofSymbol c with
    | .ok symbol => do
      let tokens ← scanBytesFrom text (here + c) rest
      return tokens.map (symbol.toList ++ ·)
    | .error problem =>
      if isNameChar c then do
        let name ← cut? text here (passName (here + c) rest).1
        let tokens ← scanBytesFrom text (passName (here + c) rest).1 (passName (here + c) rest).2
        return tokens.map (.name name :: ·)
      else
        some (.error problem)
termination_by rest => rest.length
decreasing_by
  · exact Nat.lt_succ_self _
  · exact Nat.lt_succ_of_le (length_passName_le _ _)

/-- The tokens of a text, unless a name cannot be cut out. -/
def scanBytes (text : String) : Option (Except TypeProblem (List Token)) :=
  scanBytesFrom text 0 text.toList

/-! ## Cutting between characters -/

/-- Bytes behind a whole number of characters are between characters, and what is cut out there is
the text between them. -/
theorem cut?_append (before name after : String) :
    cut? (before ++ name ++ after) before.rawEndPos (before ++ name).rawEndPos = some name := by
  have hstart : before.rawEndPos.IsValid (before ++ name ++ after) :=
    String.Pos.Raw.isValid_iff_exists_append.2 ⟨before, name ++ after, String.append_assoc, rfl⟩
  have hstop : (before ++ name).rawEndPos.IsValid (before ++ name ++ after) :=
    String.Pos.Raw.isValid_iff_exists_append.2 ⟨before ++ name, after, rfl, rfl⟩
  have hle : before.rawEndPos ≤ (before ++ name).rawEndPos := by
    simp [String.Pos.Raw.le_iff]
  have hbytes : (before ++ name ++ after).toByteArray.extract (before.toByteArray.size + 0)
      (before.toByteArray.size + name.toByteArray.size) = name.toByteArray := by
    rw [String.append_assoc, String.toByteArray_append, String.toByteArray_append,
      ByteArray.extract_append_size_add, ByteArray.extract_append_size_left,
      ByteArray.extract_zero_size]
  rw [cut?, dif_pos ⟨hstart, hstop, hle⟩, Option.some_inj, ← String.toByteArray_inj,
    String.toByteArray_extract]
  simpa using hbytes

/-- So characters are cut out of a text by what stands before them. -/
theorem cut?_of_toList_eq {text : String} {before name after : List Char}
    (h : text.toList = before ++ (name ++ after)) :
    cut? text (String.ofList before).rawEndPos (String.ofList (before ++ name)).rawEndPos =
      some (String.ofList name) := by
  have htext : text = String.ofList before ++ String.ofList name ++ String.ofList after := by
    rw [← String.toList_inj, h]
    simp
  rw [htext, String.ofList_append]
  exact cut?_append _ _ _

/-- The byte behind a character is as many bytes further as the character is wide. -/
theorem rawEndPos_concat (before : List Char) (c : Char) :
    (String.ofList before).rawEndPos + c = (String.ofList (before ++ [c])).rawEndPos := by
  apply String.Pos.Raw.ext
  simp [String.ofList_append]

/-- A run of name characters that cannot be continued is passed as a whole. -/
theorem passName_append {run rest : List Char} (hrun : ∀ c ∈ run, isNameChar c = true)
    (hrest : ∀ c ∈ rest.head?, isNameChar c = false) (before : List Char) :
    passName (String.ofList before).rawEndPos (run ++ rest) =
      ((String.ofList (before ++ run)).rawEndPos, rest) := by
  induction run generalizing before with
  | nil =>
    rw [List.nil_append, List.append_nil]
    cases rest with
    | nil => rw [passName]
    | cons c rest =>
      have hc : isNameChar c = false := hrest c rfl
      rw [passName, if_neg (by simp [hc])]
  | cons c run ih =>
    obtain ⟨hc, hrun⟩ := List.forall_mem_cons.1 hrun
    rw [List.cons_append, passName, if_pos hc, rawEndPos_concat, ih hrun, List.append_assoc,
      List.singleton_append]

/-- Every text starts with a run of name characters that cannot be continued. -/
theorem exists_longest_run (text : List Char) :
    ∃ run rest, text = run ++ rest ∧ (∀ c ∈ run, isNameChar c = true) ∧
      ∀ c ∈ rest.head?, isNameChar c = false := by
  refine ⟨text.takeWhile isNameChar, text.dropWhile isNameChar,
    List.takeWhile_append_dropWhile.symm, List.all_eq_true.1 List.all_takeWhile, fun c hc => ?_⟩
  have hstop := List.head?_dropWhile_not isNameChar text
  rwa [Option.mem_def.1 hc] at hstop

/-! ## The tokens that are cut out -/

section
variable {text : String} {before : List Char}

/-- Behind a symbol or a blank character the scan by bytes goes on at the next character. -/
theorem scanBytesFrom_symbol {c : Char} {symbol : Option Token} (h : ofSymbol c = .ok symbol)
    (rest : List Char) :
    scanBytesFrom text (String.ofList before).rawEndPos (c :: rest) =
      (scanBytesFrom text (String.ofList (before ++ [c])).rawEndPos rest).map
        (·.map (symbol.toList ++ ·)) := by
  rw [scanBytesFrom, rawEndPos_concat, h, Option.map_eq_bind]
  rfl

/-- A name that cannot be continued is cut out, and the scan by bytes goes on behind it. -/
theorem scanBytesFrom_name {c : Char} {run rest : List Char}
    (htext : text.toList = before ++ (c :: run ++ rest))
    (hname : ∀ c' ∈ c :: run, isNameChar c' = true)
    (hrest : ∀ c ∈ rest.head?, isNameChar c = false) :
    scanBytesFrom text (String.ofList before).rawEndPos (c :: run ++ rest) =
      (scanBytesFrom text (String.ofList (before ++ c :: run)).rawEndPos rest).map
        (·.map (.name (String.ofList (c :: run)) :: ·)) := by
  obtain ⟨hc, hrun⟩ := List.forall_mem_cons.1 hname
  rw [List.cons_append, scanBytesFrom]
  cases hsymbol : ofSymbol c with
  | ok symbol => cases (isNameChar_of_ofSymbol hsymbol).symm.trans hc
  | error problem =>
    dsimp only
    rw [if_pos hc, rawEndPos_concat, passName_append hrun hrest, List.append_assoc,
      List.singleton_append, cut?_of_toList_eq htext, Option.map_eq_bind]
    rfl

end

/-- No name is cut inside a character, and the tokens of the rest of a text are found at the byte
where it starts. -/
theorem scanBytesFrom_eq {text : String} (before rest : List Char)
    (h : text.toList = before ++ rest) :
    scanBytesFrom text (String.ofList before).rawEndPos rest = some (scanFrom [] rest) := by
  -- A name is passed in one round, so what is left gets shorter by more than a character.
  induction hlength : rest.length using Nat.strongRecOn generalizing before rest with
  | ind n ih =>
    subst hlength
    cases rest with
    | nil =>
      rw [scanBytesFrom]
      rfl
    | cons c rest =>
      cases hsymbol : ofSymbol c with
      | ok symbol =>
        have hscan := ih rest.length (Nat.lt_succ_self _) (before ++ [c]) rest (by simp [h]) rfl
        rw [scanBytesFrom_symbol hsymbol, hscan, scanFrom_symbol hsymbol, Option.map_some]
      | error problem =>
        cases hc : isNameChar c with
        | true =>
          obtain ⟨run, rest, rfl, hrun, hrest⟩ := exists_longest_run rest
          have hname : ∀ c' ∈ c :: run, isNameChar c' = true := List.forall_mem_cons.2 ⟨hc, hrun⟩
          have hshorter : rest.length < (c :: (run ++ rest)).length := by
            simp only [List.length_cons, List.length_append]
            omega
          have hscan := ih rest.length hshorter (before ++ c :: run) rest (by simp [h]) rfl
          rw [← List.cons_append, scanBytesFrom_name h hname hrest, hscan,
            scanFrom_name (List.cons_ne_nil c run) hname hrest, Option.map_some]
        | false =>
          rw [scanBytesFrom, scanFrom, hsymbol, if_neg (by simp [hc])]
          dsimp only
          rw [if_neg (by simp [hc])]
          rfl

/-- Every name of a text can be cut out of it, and the tokens are found that way, or the problem. -/
theorem scanBytes_eq_scan (text : String) : scanBytes text = some (scan text) :=
  scanBytesFrom_eq [] text.toList rfl

end Token

end ValueShadow
