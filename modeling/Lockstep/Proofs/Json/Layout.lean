import Lockstep.Proofs.Json.Spelling

namespace Lockstep.Json

/-- Pieces with a comma between any two. -/
def joined : List (List Token) → List Token
  | [] => []
  | [piece] => piece
  | piece :: next :: pieces => piece ++ .comma :: joined (next :: pieces)

mutual

/-- The tokens of a value. -/
def tokens : Json → List Token
  | .null => [.null]
  | .truth b => [.truth b]
  | .numeral written => [.numeral written]
  | .quoted body => [.quoted body]
  | .array items => .openArray :: joined (itemTokens items) ++ [.closeArray]
  | .object members => .openObject :: joined (memberTokens members) ++ [.closeObject]

def itemTokens : List Json → List (List Token)
  | [] => []
  | item :: items => tokens item :: itemTokens items

def memberTokens : List (Bytes × Json) → List (List Token)
  | [] => []
  | (name, value) :: members => (.quoted name :: .colon :: tokens value) :: memberTokens members

end

private theorem itemTokens_eq (items : List Json) : itemTokens items = items.map tokens := by
  induction items with
  | nil => rfl
  | cons item items ih => rw [itemTokens, ih, List.map_cons]

private theorem memberTokens_eq (members : List (Bytes × Json)) :
    memberTokens members = members.map fun m => .quoted m.1 :: .colon :: tokens m.2 := by
  induction members with
  | nil => rfl
  | cons member members ih => rw [memberTokens, ih, List.map_cons]

/-- The bytes of a token. -/
def Token.written : Token → Bytes
  | .openObject => [123]
  | .closeObject => [125]
  | .openArray => [91]
  | .closeArray => [93]
  | .colon => [58]
  | .comma => [44]
  | .null => Text.bytes "null"
  | .truth b => Text.bytes (Print.truth b)
  | .numeral written => written
  | .quoted body => 34 :: (body ++ [34])

/-- Blanks between tokens: spaces, tabs and the ends of lines. -/
def Blanks (gap : Bytes) : Prop :=
  ∀ b ∈ gap, b = 32 ∨ b = 10 ∨ b = 13 ∨ b = 9

instance (gap : Bytes) : Decidable (Blanks gap) :=
  List.decidableBAll (fun b => b = 32 ∨ b = 10 ∨ b = 13 ∨ b = 9) gap

theorem blanks_nil : Blanks [] :=
  List.forall_mem_nil _

/-- Tokens with any blanks before, between and behind them. -/
inductive Laid : List Token → Bytes → Prop where
  | nil {gap : Bytes} : Blanks gap → Laid [] gap
  | cons {gap text : Bytes} {t : Token} {tokens : List Token} : Blanks gap → Laid tokens text →
      Laid (t :: tokens) (gap ++ (t.written ++ text))

/-- Tokens with these gaps before them, one each, and what is left of the gaps behind the last one. -/
def spread : List Bytes → List Token → Bytes
  | gaps, [] => gaps.flatten
  | [], t :: ts => t.written ++ spread [] ts
  | gap :: gaps, t :: ts => gap ++ (t.written ++ spread gaps ts)

/-- A value of texts, truth values, nulls, natural numbers of 64 bits, and arrays and objects of such values, at
    most so many of which lie in one another. -/
inductive Composed : Nat → Json → Prop where
  | null {depth : Nat} : Composed depth .null
  | truth {depth : Nat} (b : Bool) : Composed depth (.truth b)
  | natural {depth n : Nat} : n ≤ maxNatural → Composed depth (.numeral (digits n))
  | text {depth : Nat} {s : String} {body : Bytes} : Spelled s body → Composed depth (.quoted body)
  | array {depth : Nat} {items : List Json} : (∀ item ∈ items, Composed depth item) →
      Composed (depth + 1) (.array items)
  | object {depth : Nat} {members : List (Bytes × Json)} : (∀ m ∈ members, ∃ name, Spelled name m.1) →
      (∀ m ∈ members, Composed depth m.2) → Composed (depth + 1) (.object members)

variable {depth opened : Nat} {v : Json} {t : Token} {ts rest : List Token} {text gap : Bytes}

theorem Composed.mono {more : Nat} (composed : Composed depth v) (deeper : depth ≤ more) : Composed more v := by
  induction composed generalizing more with
  | null => exact .null
  | truth b => exact .truth b
  | natural small => exact .natural small
  | text spelled => exact .text spelled
  | array _ ih =>
    obtain ⟨more, rfl⟩ : ∃ k, more = k + 1 := ⟨more - 1, by omega⟩
    exact .array fun item member => ih item member (by omega)
  | object names _ ih =>
    obtain ⟨more, rfl⟩ : ∃ k, more = k + 1 := ⟨more - 1, by omega⟩
    exact .object names fun m member => ih m member (by omega)

theorem laid_spread {gaps : List Bytes} (blanks : ∀ gap ∈ gaps, Blanks gap) (ts : List Token) :
    Laid ts (spread gaps ts) := by
  induction ts generalizing gaps with
  | nil =>
    refine .nil fun b member => ?_
    obtain ⟨gap, listed, inside⟩ := List.mem_flatten.mp member
    exact blanks gap listed b inside
  | cons t ts ih =>
    cases gaps with
    | nil => exact .cons blanks_nil (ih blanks)
    | cons gap gaps =>
      exact .cons (blanks gap (List.mem_cons_self ..)) (ih fun gap member => blanks gap (List.mem_cons_of_mem _ member))

/-- A token that is what it seems: the text of a quoted one is spelled, and the number of a numeral has no more than
    64 bits. -/
def Token.Genuine : Token → Prop
  | .numeral written => ∃ n ≤ maxNatural, written = digits n
  | .quoted body => ∃ s, Spelled s body
  | _ => True

private theorem Token.Genuine.sound (genuine : t.Genuine) : t.sound = true := by
  cases t with
  | numeral written =>
    obtain ⟨n, small, rfl⟩ := genuine
    exact inRange_digits small
  | quoted body =>
    obtain ⟨s, spelled⟩ := genuine
    simp [Token.sound, text?_of_spelled spelled]
  | _ => rfl

/-- The tokens that may come right behind a number. -/
def Closes (rest : List Token) : Prop :=
  ∃ t more, rest = t :: more ∧ (t = .comma ∨ t = .closeArray ∨ t = .closeObject)

/-- Behind each number there is a comma or the end of a container. -/
def Apart : List Token → Prop
  | [] => True
  | t :: rest => ((∃ written, t = .numeral written) → Closes rest) ∧ Apart rest

private theorem scan_blanks (blanks : Blanks gap) (before : List Token) (rest : Bytes) :
    (gap ++ rest).foldlM Scanner.next? ⟨before, .blank⟩ = rest.foldlM Scanner.next? ⟨before, .blank⟩ := by
  induction gap with
  | nil => rfl
  | cons b gap ih =>
    have here : Scanner.next? ⟨before, .blank⟩ b = some ⟨before, .blank⟩ := if_pos (blanks b (List.mem_cons_self ..))
    rw [List.cons_append, List.foldlM_cons, here]
    exact ih fun b member => blanks b (List.mem_cons_of_mem _ member)

/-- Every token but a number is scanned whatever follows. -/
private theorem scan_token (genuine : t.Genuine) (other : ∀ written, t ≠ .numeral written) (before : List Token)
    (rest : Bytes) : (t.written ++ rest).foldlM Scanner.next? ⟨before, .blank⟩ =
      rest.foldlM Scanner.next? ⟨t :: before, .blank⟩ := by
  cases t with
  | numeral written => exact absurd rfl (other written)
  | quoted body =>
    obtain ⟨s, spelled⟩ := genuine
    simpa [Token.written] using scan_quoted (escape_of_spelled spelled) before rest
  | truth b => cases b <;> rfl
  | _ => rfl

private theorem begins_of_closes (closes : Closes ts) (laid : Laid ts text) :
    ∃ b more, text = b :: more ∧ b ∈ behindNumbers := by
  obtain ⟨t, more, rfl, which⟩ := closes
  cases laid with
  | @cons gap text _ _ blanks laid =>
    cases gap with
    | nil =>
      rcases which with rfl | rfl | rfl
      · exact ⟨44, text, rfl, by decide⟩
      · exact ⟨93, text, rfl, by decide⟩
      · exact ⟨125, text, rfl, by decide⟩
    | cons b gap =>
      refine ⟨b, gap ++ (t.written ++ text), rfl, ?_⟩
      rcases blanks b (List.mem_cons_self ..) with rfl | rfl | rfl | rfl <;> decide

/-- A layout is scanned as its tokens. -/
private theorem scan_laid (laid : Laid ts text) (genuine : ∀ t ∈ ts, t.Genuine) (apart : Apart ts)
    (before : List Token) : text.foldlM Scanner.next? ⟨before, .blank⟩ = some ⟨ts.reverse ++ before, .blank⟩ := by
  induction laid generalizing before with
  | @nil gap blanks =>
    have all := scan_blanks blanks before []
    rw [List.append_nil] at all
    exact all
  | @cons gap text t ts blanks laid ih =>
    have rest := ih (fun t member => genuine t (List.mem_cons_of_mem _ member)) apart.2 (t :: before)
    rw [scan_blanks blanks]
    by_cases number : ∃ written, t = .numeral written
    · obtain ⟨written, rfl⟩ := number
      obtain ⟨n, small, rfl⟩ := genuine _ (List.mem_cons_self ..)
      obtain ⟨b, more, rfl, behind⟩ := begins_of_closes (apart.1 ⟨_, rfl⟩) laid
      rw [Token.written, scan_natural n before behind, rest]
      simp
    · rw [scan_token (genuine t (List.mem_cons_self ..)) (fun written same => number ⟨written, same⟩), rest]
      simp

private theorem tokens?_of_laid (laid : Laid ts text) (genuine : ∀ t ∈ ts, t.Genuine) (apart : Apart ts) :
    tokens? text = some ts := by
  have scanned := scan_laid laid genuine apart []
  rw [tokens?, scanned]
  simp [Scanner.finish?]

variable {pieces : List (List Token)}

private theorem mem_joined (member : t ∈ joined pieces) : t = .comma ∨ ∃ piece ∈ pieces, t ∈ piece := by
  induction pieces using joined.induct with
  | case1 => cases member
  | case2 piece => exact .inr ⟨piece, List.mem_singleton_self _, member⟩
  | case3 piece next pieces ih =>
    rw [joined, List.mem_append, List.mem_cons] at member
    rcases member with here | rfl | later
    · exact .inr ⟨piece, List.mem_cons_self .., here⟩
    · exact .inl rfl
    · rcases ih later with comma | ⟨piece', listed, inside⟩
      · exact .inl comma
      · exact .inr ⟨piece', List.mem_cons_of_mem _ listed, inside⟩

/-- Pieces that close what they open do so together. -/
private theorem shallow_joined (each : ∀ piece ∈ pieces, ∀ rest, shallow opened (piece ++ rest) = shallow opened rest)
    (rest : List Token) : shallow opened (joined pieces ++ rest) = shallow opened rest := by
  induction pieces using joined.induct with
  | case1 => rfl
  | case2 piece => exact each piece (List.mem_singleton_self _) rest
  | case3 piece next pieces ih =>
    rw [joined, List.append_assoc, each piece (List.mem_cons_self ..), List.cons_append]
    exact ih fun piece member => each piece (List.mem_cons_of_mem _ member)

private theorem apart_joined (each : ∀ piece ∈ pieces, ∀ rest, Closes rest → Apart rest → Apart (piece ++ rest))
    (closes : Closes rest) (apart : Apart rest) : Apart (joined pieces ++ rest) := by
  induction pieces using joined.induct with
  | case1 => exact apart
  | case2 piece => exact each piece (List.mem_singleton_self _) rest closes apart
  | case3 piece next pieces ih =>
    have later := ih fun piece member => each piece (List.mem_cons_of_mem _ member)
    rw [joined, List.append_assoc, List.cons_append]
    refine each piece (List.mem_cons_self ..) _ ⟨_, _, rfl, .inl rfl⟩ ⟨?_, later⟩
    rintro ⟨written, ⟨⟩⟩

/-- Tokens that are genuine, close what they open, and leave every number with a comma or an end behind it. -/
structure Closed (depth : Nat) (piece : List Token) : Prop where
  genuine : ∀ t ∈ piece, t.Genuine
  shallow : ∀ {opened : Nat}, opened + depth ≤ maxDepth → ∀ rest : List Token,
    Json.shallow opened (piece ++ rest) = Json.shallow opened rest
  apart : ∀ rest : List Token, Closes rest → Apart rest → Apart (piece ++ rest)

private theorem closed_single (genuine : t.Genuine)
    (flat : ∀ opened rest, shallow opened (t :: rest) = shallow opened rest) : Closed depth [t] where
  genuine _ member := List.mem_singleton.mp member ▸ genuine
  shallow _ rest := flat _ rest
  apart _ closes apart := ⟨fun _ => closes, apart⟩

private theorem Closed.member {name : Bytes} {s : String} (closed : Closed depth ts) (spelled : Spelled s name) :
    Closed depth (.quoted name :: .colon :: ts) where
  genuine t member := by
    rcases List.mem_cons.mp member with rfl | later
    · exact ⟨s, spelled⟩
    · rcases List.mem_cons.mp later with rfl | value
      · trivial
      · exact closed.genuine t value
  shallow room rest := closed.shallow room rest
  apart rest closes apart := by
    refine ⟨?_, ?_, closed.apart rest closes apart⟩
    · rintro ⟨written, ⟨⟩⟩
    · rintro ⟨written, ⟨⟩⟩

/-- The first and the last token of a container. -/
def Ends (first last : Token) : Prop :=
  first = .openArray ∧ last = .closeArray ∨ first = .openObject ∧ last = .closeObject

private theorem apart_container {first last : Token} (ends : Ends first last)
    (each : ∀ piece ∈ pieces, Closed depth piece) (apart : Apart rest) :
    Apart (first :: (joined pieces ++ last :: rest)) := by
  have number : ¬ (∃ written, first = .numeral written) ∧ ¬ ∃ written, last = .numeral written := by
    rcases ends with ⟨rfl, rfl⟩ | ⟨rfl, rfl⟩ <;> simp
  have behind : Closes (last :: rest) := ⟨last, rest, rfl, by rcases ends with ⟨-, rfl⟩ | ⟨-, rfl⟩ <;> simp⟩
  refine ⟨fun written => absurd written number.1, ?_⟩
  exact apart_joined (fun piece listed => (each piece listed).apart) behind
    ⟨fun written => absurd written number.2, apart⟩

/-- What stands between the ends of a container is one level deeper. -/
private theorem closed_container {first last : Token} (ends : Ends first last)
    (each : ∀ piece ∈ pieces, Closed depth piece) : Closed (depth + 1) (first :: (joined pieces ++ [last])) where
  genuine t member := by
    rw [List.mem_cons, List.mem_append, List.mem_singleton] at member
    rcases member with rfl | inside | rfl
    · rcases ends with ⟨rfl, -⟩ | ⟨rfl, -⟩ <;> trivial
    · rcases mem_joined inside with rfl | ⟨piece, listed, here⟩
      · trivial
      · exact (each piece listed).genuine t here
    · rcases ends with ⟨-, rfl⟩ | ⟨-, rfl⟩ <;> trivial
  shallow {opened} room rest := by
    have inside : opened < maxDepth := by omega
    have between := shallow_joined (fun piece listed => (each piece listed).shallow (by omega : opened + 1 + depth ≤ _))
      (last :: rest)
    rcases ends with ⟨rfl, rfl⟩ | ⟨rfl, rfl⟩
    · simpa [Json.shallow, inside] using between
    · simpa [Json.shallow, inside] using between
  apart rest _ apart := by
    simpa using apart_container ends each apart

/-- The tokens of a value are read as this value, in whatever they stand. -/
structure Stands (depth : Nat) (v : Json) : Prop extends Closed depth (tokens v) where
  built : ∀ containers : List Container,
    (tokens v).foldlM Builder.next? ⟨containers, .value⟩ = some ⟨containers, .more v⟩
  begins : ∃ t more, tokens v = t :: more ∧ t ≠ .closeArray

/-- The items of an array are read one after the other, up to its end. -/
private theorem built_items {items : List Json} (filled : items ≠ []) (each : ∀ item ∈ items, Stands depth item)
    (before : List Json) (containers : List Container) :
    (joined (items.map tokens) ++ [Token.closeArray]).foldlM Builder.next? ⟨.array before :: containers, .value⟩ =
      some ⟨containers, .more (.array (before.reverse ++ items))⟩ := by
  induction items generalizing before with
  | nil => exact absurd rfl filled
  | cons item items ih =>
    have first := (each item (List.mem_cons_self ..)).built (.array before :: containers)
    cases items with
    | nil =>
      rw [List.map_singleton, joined, List.foldlM_append, first]
      simp [Builder.next?]
    | cons next items =>
      have later := ih (by simp) (fun item member => each item (List.mem_cons_of_mem _ member)) (item :: before)
      rw [List.map_cons, List.map_cons, joined, List.append_assoc, List.foldlM_append, first, ← List.map_cons]
      show (joined ((next :: items).map tokens) ++ [Token.closeArray]).foldlM Builder.next?
        ⟨.array (item :: before) :: containers, .value⟩ = _
      rw [later]
      simp

/-- The tokens of a member. -/
def memberOf (m : Bytes × Json) : List Token :=
  .quoted m.1 :: .colon :: tokens m.2

/-- So are the members of an object. -/
private theorem built_members {members : List (Bytes × Json)} (filled : members ≠ [])
    (each : ∀ m ∈ members, Stands depth m.2) (before : List (Bytes × Json)) (last : Bytes)
    (containers : List Container) :
    (joined (members.map memberOf) ++ [Token.closeObject]).foldlM Builder.next?
        ⟨.object before last :: containers, .member⟩ =
      some ⟨containers, .more (.object (before.reverse ++ members))⟩ := by
  induction members generalizing before last with
  | nil => exact absurd rfl filled
  | cons m members ih =>
    have value := (each m (List.mem_cons_self ..)).built (.object before m.1 :: containers)
    have first : (memberOf m).foldlM Builder.next? ⟨.object before last :: containers, .member⟩ =
        some ⟨.object before m.1 :: containers, .more m.2⟩ := value
    cases members with
    | nil =>
      rw [List.map_singleton, joined, List.foldlM_append, first]
      simp [Builder.next?]
    | cons next members =>
      have later := ih (by simp) (fun m member => each m (List.mem_cons_of_mem _ member)) (m :: before) m.1
      rw [List.map_cons, List.map_cons, joined, List.append_assoc, List.foldlM_append, first, ← List.map_cons]
      show (joined ((next :: members).map memberOf) ++ [Token.closeObject]).foldlM Builder.next?
        ⟨.object (m :: before) m.1 :: containers, .member⟩ = _
      rw [later]
      simp

private theorem tokens_array (items : List Json) :
    tokens (.array items) = .openArray :: (joined (items.map tokens) ++ [.closeArray]) := by
  rw [tokens, itemTokens_eq, List.cons_append]

theorem tokens_object (members : List (Bytes × Json)) :
    tokens (.object members) = .openObject :: (joined (members.map memberOf) ++ [.closeObject]) := by
  rw [tokens, memberTokens_eq, List.cons_append]
  rfl

/-- More pieces do not change how the first one begins. -/
private theorem joined_begins (more : List Token) (pieces : List (List Token)) :
    ∃ rest, joined ((t :: more) :: pieces) = t :: rest := by
  cases pieces with
  | nil => exact ⟨more, rfl⟩
  | cons next pieces => exact ⟨_, rfl⟩

private theorem stands_array {items : List Json} (each : ∀ item ∈ items, Stands depth item) :
    Stands (depth + 1) (.array items) where
  toClosed := by
    rw [tokens_array]
    refine closed_container (.inl ⟨rfl, rfl⟩) fun piece listed => ?_
    obtain ⟨item, member, rfl⟩ := List.mem_map.mp listed
    exact (each item member).toClosed
  built containers := by
    rw [tokens_array]
    cases items with
    | nil => rfl
    | cons item items =>
      obtain ⟨t, more, head, other⟩ := (each item (List.mem_cons_self ..)).begins
      obtain ⟨rest, whole⟩ := joined_begins more (items.map tokens)
      have built := built_items (by simp) each [] containers
      rw [List.map_cons, head, whole] at built ⊢
      -- the first item is read as any other one, because it does not end the array
      have first : Builder.next? ⟨.array [] :: containers, .firstItem⟩ t =
          Builder.next? ⟨.array [] :: containers, .value⟩ t := if_neg other
      rw [List.cons_append, List.foldlM_cons]
      show (t :: (rest ++ [Token.closeArray])).foldlM Builder.next? ⟨.array [] :: containers, .firstItem⟩ = _
      rw [List.foldlM_cons, first]
      exact built
  begins := ⟨_, _, tokens_array items, nofun⟩

private theorem stands_object {members : List (Bytes × Json)} (names : ∀ m ∈ members, ∃ name, Spelled name m.1)
    (each : ∀ m ∈ members, Stands depth m.2) : Stands (depth + 1) (.object members) where
  toClosed := by
    rw [tokens_object]
    refine closed_container (.inr ⟨rfl, rfl⟩) fun piece listed => ?_
    obtain ⟨m, member, rfl⟩ := List.mem_map.mp listed
    obtain ⟨name, spelled⟩ := names m member
    exact (each m member).toClosed.member spelled
  built containers := by
    rw [tokens_object]
    cases members with
    | nil => rfl
    | cons m members =>
      obtain ⟨rest, whole⟩ := joined_begins (.colon :: tokens m.2) (members.map memberOf)
      have built := built_members (by simp) each [] [] containers
      rw [List.map_cons, memberOf, whole] at built ⊢
      -- the first member is read as any other one, because there is one
      exact built
  begins := ⟨_, _, tokens_object members, nofun⟩

private theorem stands_of_composed (composed : Composed depth v) : Stands depth v := by
  induction composed with
  | null => exact ⟨closed_single trivial fun _ _ => rfl, fun _ => rfl, _, _, rfl, nofun⟩
  | truth b => exact ⟨closed_single trivial fun _ _ => rfl, fun _ => rfl, _, _, rfl, nofun⟩
  | natural small => exact ⟨closed_single ⟨_, small, rfl⟩ fun _ _ => rfl, fun _ => rfl, _, _, rfl, nofun⟩
  | text spelled => exact ⟨closed_single ⟨_, spelled⟩ fun _ _ => rfl, fun _ => rfl, _, _, rfl, nofun⟩
  | array _ ih => exact stands_array ih
  | object names _ ih => exact stands_object names ih

/-- Every layout of an object that is not too deep is sound, and has this value. -/
theorem sound?_of_laid {members : List (Bytes × Json)} (names : ∀ m ∈ members, ∃ name, Spelled name m.1)
    (each : ∀ m ∈ members, Composed depth m.2) (room : depth < maxDepth)
    (laid : Laid (tokens (.object members)) text) : sound? text = some (.object members) := by
  have stands := stands_of_composed (.object names each)
  have built := stands.built []
  have flat := stands.shallow (show 0 + (depth + 1) ≤ maxDepth by omega) []
  rw [List.append_nil] at flat
  have apart : Apart (tokens (.object members)) := by
    have pieces : ∀ piece ∈ members.map memberOf, Closed depth piece := by
      intro piece listed
      obtain ⟨m, member, rfl⟩ := List.mem_map.mp listed
      obtain ⟨name, spelled⟩ := names m member
      exact (stands_of_composed (each m member)).toClosed.member spelled
    rw [tokens_object]
    exact apart_container (.inr ⟨rfl, rfl⟩) pieces trivial
  have found := tokens?_of_laid laid stands.genuine apart
  have sound : (tokens (.object members)).all Token.sound = true :=
    List.all_eq_true.mpr fun t member => (stands.genuine t member).sound
  rw [sound?, found, Option.bind_eq_bind, Option.bind_some, sound, flat]
  simp [shallow, ofTokens?, built, Builder.finish?]

end Lockstep.Json
