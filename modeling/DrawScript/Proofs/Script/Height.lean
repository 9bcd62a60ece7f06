import DrawScript.Proofs.Script.Walk

set_option autoImplicit false

namespace DrawScript

mutual
def Expr.height (link : Nat) : Expr → Nat
  | .call _ arguments => Expr.highest link arguments + 1
  | .binary _ left right => max (left.height link) (right.height link) + link
  | .unary _ operand => operand.height link + 1
  | .identifier _ | .number _ | .string _ | .boolean _ => 1

def Expr.highest (link : Nat) : List Expr → Nat
  | [] => 0
  | e :: es => max (e.height link) (Expr.highest link es)
end

theorem Expr.highest_le {link bound : Nat} {es : List Expr} :
    highest link es ≤ bound ↔ ∀ e ∈ es, e.height link ≤ bound := by
  induction es with
  | nil => simp [highest]
  | cons e es ih => rw [highest, Nat.max_le, List.forall_mem_cons, ih]

def Expr.heightOf (link : Nat) : Option Expr → Nat
  | none => 0
  | some e => e.height link

namespace Expr

def chain : Expr → Nat
  | .binary _ left right => max left.chain right.chain + 1
  | _ => 0

def ChainsWithin (n : Nat) (e : Expr) : Prop := ∀ part ∈ e.parts, part.chain ≤ n

theorem chainsWithin_call {n : Nat} {callee : String} {arguments : List Expr} :
    (call callee arguments).ChainsWithin n ↔ ∀ e ∈ arguments, e.ChainsWithin n := by
  have split : (call callee arguments).parts =
      call callee arguments :: arguments.flatMap parts := by
    rw [parts, inner, partsAll_eq_flatMap]
  simp only [ChainsWithin, split, List.forall_mem_cons, List.forall_mem_flatMap, chain,
    Nat.zero_le, true_and]

theorem chainsWithin_binary {n : Nat} {op : BinaryOp} {left right : Expr} :
    (binary op left right).ChainsWithin n ↔
      max left.chain right.chain + 1 ≤ n ∧ left.ChainsWithin n ∧ right.ChainsWithin n := by
  have split : (binary op left right).parts =
      binary op left right :: (left.parts ++ right.parts) := rfl
  simp only [ChainsWithin, split, List.forall_mem_cons, List.forall_mem_append, chain]

theorem ChainsWithin.chain_le {n : Nat} {e : Expr} (within : e.ChainsWithin n) : e.chain ≤ n :=
  within e List.mem_cons_self

-- Between two nodes that count in either height stand at most `n` links, and above the first of
-- them those of the chain that starts here.
mutual
theorem height_chain {n : Nat} : ∀ e : Expr, e.ChainsWithin n →
    e.height 1 + n ≤ e.chain + e.height 0 * (n + 1)
  | .call callee arguments => by
    intro within
    have low := highest_chain arguments (chainsWithin_call.mp within)
    simp only [height, chain, Nat.add_mul]
    omega
  | .binary op left right => by
    intro within
    obtain ⟨-, first, second⟩ := chainsWithin_binary.mp within
    have low := height_chain left first
    have lowRight := height_chain right second
    simp only [height, chain, Nat.add_zero, ← Nat.mul_max_mul_right]
    omega
  | .unary op operand => by
    intro within
    have inner : operand.ChainsWithin n :=
      fun part inside => within part (List.mem_cons_of_mem _ inside)
    have low := height_chain operand inner
    have short := inner.chain_le
    simp only [height, chain, Nat.add_mul]
    omega
  | .identifier _ | .number _ | .string _ | .boolean _ => by
    intro _
    simp only [height, chain]
    omega

theorem highest_chain {n : Nat} : ∀ es : List Expr, (∀ e ∈ es, e.ChainsWithin n) →
    highest 1 es ≤ highest 0 es * (n + 1)
  | [] => by simp [highest]
  | e :: es => by
    intro within
    have first := within e List.mem_cons_self
    have low := height_chain e first
    have short := first.chain_le
    have lowOthers := highest_chain es fun other member =>
      within other (List.mem_cons_of_mem _ member)
    simp only [highest, ← Nat.mul_max_mul_right]
    omega
end

theorem height_le {n : Nat} {e : Expr} (within : e.ChainsWithin n) :
    e.height 1 ≤ e.height 0 * (n + 1) := by
  have low := height_chain e within
  have short := within.chain_le
  omega

theorem heightOf_le {n : Nat} : ∀ e : Option Expr, (∀ x ∈ e, x.ChainsWithin n) →
    heightOf 1 e ≤ heightOf 0 e * (n + 1)
  | none, _ => Nat.zero_le _
  | some e, within => height_le (within e rfl)

end Expr

namespace Statement

def isLink : List Statement → Bool
  | [.ifElse ..] => true
  | _ => false

mutual
def inside (link : Nat) : Statement → Nat
  | .var _ _ initial _ => initial.height link
  | .cursor _ arguments _ | .method _ _ arguments _ => Expr.highest link arguments
  | .function _ _ body _ | .block body => insideBlock link body
  | .ifElse test thenBlock elseBlock _ =>
      max (test.height link) (max (insideBlock link thenBlock) (insideOtherwise link elseBlock))
  | .forLoop initial test increment body _ =>
      max (max (insideInitial link initial) (Expr.heightOf link test))
        (max (Expr.heightOf link increment) (insideBlock link body))
  | .whileLoop test body _ | .doWhile body test _ =>
      max (test.height link) (insideBlock link body)
  | .returnValue value _ => Expr.heightOf link value
  | .copy source destination _ => max (Expr.highest link source) (Expr.highest link destination)
  | .animate first second body _ =>
      max (max (first.height link) (second.height link)) (insideBlock link body)
  | .expression value _ => value.height link
  | .empty _ => 0

def insideBlock (link : Nat) : Block Statement → Nat
  | ⟨body, _⟩ => highest link 1 body

def insideOtherwise (link : Nat) : Option (Block Statement) → Nat
  | none => 0
  | some ⟨body, _⟩ => highest link (if isLink body then link else 1) body

def insideInitial (link : Nat) : Option Statement → Nat
  | none => 0
  | some initial => initial.inside link + 1

def highest (link own : Nat) : List Statement → Nat
  | [] => 0
  | s :: ss => max (s.inside link + own) (highest link own ss)
end

def height (link : Nat) (s : Statement) : Nat := s.inside link + 1

theorem highest_le {link own bound : Nat} {ss : List Statement} :
    highest link own ss ≤ bound ↔ ∀ s ∈ ss, s.inside link + own ≤ bound := by
  induction ss with
  | nil => simp [highest]
  | cons s ss ih => rw [highest, Nat.max_le, List.forall_mem_cons, ih]

theorem insideOtherwise_link {s : Statement} {line bound : Nat} (link : isLink [s])
    (low : s.inside 0 ≤ bound) : insideOtherwise 0 (some ⟨[s], line⟩) ≤ bound := by
  rw [insideOtherwise, if_pos link, highest_le]
  simpa using low

theorem insideOtherwise_block {block : Block Statement} {bound : Nat}
    (low : insideBlock 0 block ≤ bound) : insideOtherwise 0 (some block) ≤ bound := by
  obtain ⟨body, line⟩ := block
  rw [insideBlock, highest_le] at low
  rw [insideOtherwise, highest_le]
  intro s member
  have lowMember := low s member
  split <;> omega

mutual
def chain : Statement → Nat
  | .ifElse _ _ elseBlock _ => chainOtherwise elseBlock
  | _ => 0

def chainOtherwise : Option (Block Statement) → Nat
  | none => 0
  | some ⟨body, _⟩ => if isLink body then chainAll body + 1 else 0

def chainAll : List Statement → Nat
  | [] => 0
  | s :: ss => max s.chain (chainAll ss)
end

def expressions : Statement → List Expr
  | .var _ _ initial _ => [initial]
  | .cursor _ arguments _ | .method _ _ arguments _ => arguments
  | .ifElse test _ _ _ | .whileLoop test _ _ | .doWhile _ test _ => [test]
  | .forLoop _ test increment _ _ => test.toList ++ increment.toList
  | .returnValue value _ => value.toList
  | .copy source destination _ => source ++ destination
  | .animate first second _ _ => [first, second]
  | .expression value _ => [value]
  | .function .. | .block _ | .empty _ => []

/-- Neither the chain that starts with this statement nor one in its expressions has more links. -/
def OwnChainsWithin (n : Nat) (s : Statement) : Prop :=
  s.chain ≤ n ∧ ∀ e ∈ s.expressions, e.ChainsWithin n

def ChainsWithin (n : Nat) (s : Statement) : Prop := ∀ t ∈ s.walk, t.OwnChainsWithin n

theorem ChainsWithin.chain_le {n : Nat} {s : Statement} (within : s.ChainsWithin n) : s.chain ≤ n :=
  (within s List.mem_cons_self).1

theorem ChainsWithin.expressions {n : Nat} {s : Statement} (within : s.ChainsWithin n) :
    ∀ e ∈ s.expressions, e.ChainsWithin n :=
  (within s List.mem_cons_self).2

mutual
theorem inside_chain {n : Nat} : ∀ s : Statement, s.ChainsWithin n →
    s.inside 1 ≤ s.chain + s.inside 0 * (n + 1)
  | .var name type initial line => by
    intro within
    have low := Expr.height_le (within.expressions initial (by simp [expressions]))
    simp only [inside]
    omega
  | .cursor _ arguments _ | .method _ _ arguments _ => by
    intro within
    have low := Expr.highest_chain arguments within.expressions
    simp only [inside]
    omega
  | .function _ _ body _ | .block body => by
    intro within
    have low := insideBlock_chain body fun t member => within t (List.mem_cons_of_mem _ member)
    simp only [inside]
    omega
  | .ifElse test thenBlock elseBlock line => by
    intro within
    have low := Expr.height_le (within.expressions test (by simp [expressions]))
    have lowThen := insideBlock_chain thenBlock fun t member =>
      within t (by simp [walk, inner, member])
    have lowElse := insideOtherwise_chain elseBlock fun t member =>
      within t (by simp [walk, inner, member])
    simp only [inside, chain, ← Nat.mul_max_mul_right]
    omega
  | .forLoop initial test increment body line => by
    intro within
    have low := Expr.heightOf_le test fun e member =>
      within.expressions e (by simp_all [expressions])
    have lowIncrement := Expr.heightOf_le increment fun e member =>
      within.expressions e (by simp_all [expressions])
    have lowInitial := insideInitial_chain initial fun t member =>
      within t (by simp [walk, inner, member])
    have lowBody := insideBlock_chain body fun t member => within t (by simp [walk, inner, member])
    simp only [inside, ← Nat.mul_max_mul_right]
    omega
  | .whileLoop test body _ | .doWhile body test _ => by
    intro within
    have low := Expr.height_le (within.expressions test (by simp [expressions]))
    have lowBody := insideBlock_chain body fun t member => within t (List.mem_cons_of_mem _ member)
    simp only [inside, ← Nat.mul_max_mul_right]
    omega
  | .returnValue value _ => by
    intro within
    have low := Expr.heightOf_le value fun e member =>
      within.expressions e (by simp_all [expressions])
    simp only [inside]
    omega
  | .copy source destination _ => by
    intro within
    have both := List.forall_mem_append.mp within.expressions
    have low := Expr.highest_chain source both.1
    have lowDestination := Expr.highest_chain destination both.2
    simp only [inside, ← Nat.mul_max_mul_right]
    omega
  | .animate first second body _ => by
    intro within
    have low := Expr.height_le (within.expressions first (by simp [expressions]))
    have lowSecond := Expr.height_le (within.expressions second (by simp [expressions]))
    have lowBody := insideBlock_chain body fun t member => within t (List.mem_cons_of_mem _ member)
    simp only [inside, ← Nat.mul_max_mul_right]
    omega
  | .expression value _ => by
    intro within
    have low := Expr.height_le (within.expressions value (by simp [expressions]))
    simp only [inside]
    omega
  | .empty _ => fun _ => Nat.zero_le _

theorem insideBlock_chain {n : Nat} : ∀ b : Block Statement,
    (∀ t ∈ walkBlock b, t.OwnChainsWithin n) →
    insideBlock 1 b ≤ insideBlock 0 b * (n + 1)
  | ⟨body, _⟩ => fun within => (highest_chain body within).1

theorem insideOtherwise_chain {n : Nat} : ∀ b : Option (Block Statement),
    (∀ t ∈ walkOtherwise b, t.OwnChainsWithin n) →
    insideOtherwise 1 b ≤ chainOtherwise b + insideOtherwise 0 b * (n + 1)
  | none => fun _ => Nat.zero_le _
  | some ⟨body, _⟩ => by
    intro within
    obtain ⟨low, lowLink⟩ := highest_chain body within
    simp only [insideOtherwise, chainOtherwise]
    split
    next => exact lowLink
    next => omega

theorem insideInitial_chain {n : Nat} : ∀ initial : Option Statement,
    (∀ t ∈ walkInitial initial, t.OwnChainsWithin n) →
    insideInitial 1 initial ≤ insideInitial 0 initial * (n + 1)
  | none => fun _ => Nat.zero_le _
  | some initial => by
    intro within
    have low := inside_chain initial within
    have short := ChainsWithin.chain_le within
    simp only [insideInitial, Nat.add_mul]
    omega

theorem highest_chain {n : Nat} : ∀ ss : List Statement,
    (∀ t ∈ walkAll ss, t.OwnChainsWithin n) →
    highest 1 1 ss ≤ highest 0 1 ss * (n + 1) ∧
      highest 1 1 ss ≤ chainAll ss + 1 + highest 0 0 ss * (n + 1)
  | [] => fun _ => ⟨Nat.zero_le _, Nat.zero_le _⟩
  | s :: ss => by
    intro within
    have first : s.ChainsWithin n := fun t member => within t (List.mem_append_left _ member)
    have low := inside_chain s first
    have short := first.chain_le
    obtain ⟨lowOthers, lowLinks⟩ :=
      highest_chain ss fun t member => within t (List.mem_append_right _ member)
    simp only [highest, chainAll, ← Nat.mul_max_mul_right, Nat.add_mul]
    omega
end

theorem height_le {n : Nat} {s : Statement} (within : s.ChainsWithin n) :
    s.height 1 ≤ s.height 0 * (n + 1) := by
  have low := inside_chain s within
  have short := within.chain_le
  simp only [height, Nat.add_mul]
  omega

end Statement

end DrawScript
