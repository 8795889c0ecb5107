import SolrRequest.Proofs.Fragment.Bounds
import SolrRequest.Proofs.Fragment.Omission
import SolrRequest.Proofs.Number.Rounding
import SolrRequest.Proofs.Text.Prefix

/-!
# Distances in query texts

A filter around a center ends in the kilometers of its distance. The check of a criteria looks at
the distance in the unit in which it was given, and miles are converted afterwards. The product is
rounded, and is infinite when it is too large for a number (`Distance.InReach`). The check also
passes the negative zero. The kilometers are a plain numeral in every other case, and in none of
these two (`Criteria.fragment_distance`).
-/

namespace SolrRequest

open Number Text

/-! ## Kilometers -/

namespace Distance

variable {d : Distance}

/-- Kilometers of miles are not rounded to infinity: twice the exact product is below twice the
middle between the largest number and the one that would come next. -/
def InReach (d : Distance) : Prop :=
  d.metric = .miles →
    2 * (d.value.units * kilometersPerMile.units) <
      BinaryFormat.binary64.unitsPerOne * BinaryFormat.binary64.overflowUnits

theorem isFinite_kilometersPerMile : kilometersPerMile.isFinite = true := by decide +kernel

theorem negative_inKilometers (h : d.value.isFinite = true) :
    d.inKilometers.negative = d.value.negative := by
  obtain ⟨value, metric⟩ := d
  cases metric with
  | kilometers | neutral => rfl
  | miles =>
    have hpositive : kilometersPerMile.negative = false := Floating.negative_ofRatio _ _ _
    show (value.mul kilometersPerMile).negative = value.negative
    rw [Floating.negative_mul h isFinite_kilometersPerMile, hpositive, Bool.bne_false]

theorem isFinite_inKilometers_iff (h : d.value.isFinite = true) :
    d.inKilometers.isFinite = true ↔ d.InReach := by
  obtain ⟨value, metric⟩ := d
  cases metric with
  | kilometers | neutral => exact iff_of_true h nofun
  | miles =>
    have hmul := Floating.isFinite_mul_iff (f := .binary64) (by decide) (by decide) h
      isFinite_kilometersPerMile
    exact hmul.trans ⟨fun hlt _ => hlt, fun hreach => hreach rfl⟩

theorem text_of_not_inReach (h : d.value.isFinite = true) (hpositive : d.value.negative = false)
    (hreach : ¬d.InReach) : d.metric = .miles ∧ d.text = "Infinity" := by
  have hfinite : d.inKilometers.isFinite = false :=
    Bool.eq_false_iff.mpr fun hfinite => hreach ((isFinite_inKilometers_iff h).mp hfinite)
  have hmetric : d.metric = .miles := by
    by_contra hmetric
    exact hreach fun hmiles => absurd hmiles hmetric
  have hinfinite : d.inKilometers.isInfinite = true := by
    rw [inKilometers, hmetric] at hfinite ⊢
    rw [Floating.isInfinite_mul h isFinite_kilometersPerMile, hfinite]
    rfl
  refine ⟨hmetric, ?_⟩
  rw [text, Floating.text_of_isInfinite hinfinite, negative_inKilometers h, hpositive]
  rfl

theorem text_of_negativeZero (h : d.value.isFinite = true) (hnegative : d.value.negative = true)
    (hzero : d.value.isZero = true) : d.text = "-0.0" := by
  have hkilometers : d.inKilometers.isZero = true := by
    obtain ⟨value, metric⟩ := d
    cases metric with
    | kilometers | neutral => exact hzero
    | miles => exact Floating.isZero_mul h isFinite_kilometersPerMile hzero
  have hfinite : d.inKilometers.isFinite = true := by
    rw [Floating.isZero, beq_iff_eq] at hkilometers
    rw [Floating.isFinite, hkilometers]
    decide
  have hsign := (negative_inKilometers h).trans hnegative
  exact Floating.text_of_negativeZero hfinite hsign hkilometers

theorem isPlainNumeral_text_iff (h : d.value.isFinite = true) :
    IsPlainNumeral d.text ↔ d.value.negative = false ∧ d.InReach := by
  rw [text, Floating.isPlainNumeral_text_iff, isFinite_inKilometers_iff h, negative_inKilometers h,
    and_comm]

/-- The text of a distance that passes the check is a plain numeral, but for two texts. -/
theorem text_cases (h : d.value.IsMagnitude) :
    IsPlainNumeral d.text ∨ d.text = "-0.0" ∨ d.metric = .miles ∧ d.text = "Infinity" := by
  cases hnegative : d.value.negative with
  | true => exact .inr (.inl (text_of_negativeZero h.1 hnegative (h.isZero hnegative)))
  | false =>
    by_cases hreach : d.InReach
    · exact .inl ((isPlainNumeral_text_iff h.1).mpr ⟨hnegative, hreach⟩)
    · exact .inr (.inr (text_of_not_inReach h.1 hnegative hreach))

end Distance

/-! ## Distances at the end of a filter -/

/-- The text ends in a distance that is a plain numeral. -/
def EndsInPlainDistance (text : String) : Prop :=
  ∃ front numeral, text = front ++ " d=" ++ numeral ++ "\x7d" ∧ IsPlainNumeral numeral

theorem endsInPlainDistance_iff (front : String) (d : Distance) :
    EndsInPlainDistance (front ++ " d=" ++ d.text ++ "\x7d") ↔ IsPlainNumeral d.text := by
  refine ⟨?_, fun h => ⟨front, _, rfl, h⟩⟩
  rintro ⟨other, numeral, h, hplain⟩
  -- the last equality sign is that of the distance
  have hlist : (front.toList ++ [' ', 'd']) ++ '=' :: (d.text.toList ++ ['\x7d']) =
      (other.toList ++ [' ', 'd']) ++ '=' :: (numeral.toList ++ ['\x7d']) := by
    simpa using congrArg String.toList h
  have hnumber : '=' ∉ d.text.toList ++ ['\x7d'] := fun h =>
    (List.mem_append.mp h).elim (fun h => absurd (Floating.mem_text h) (by decide)) (by decide)
  have hnumeral : '=' ∉ numeral.toList ++ ['\x7d'] := fun h =>
    (List.mem_append.mp h).elim (fun h => absurd (hplain.mem h) (by decide)) (by decide)
  have hsame := List.append_cancel_right (eq_of_last hnumber hnumeral hlist)
  rwa [String.toList_inj.mp hsame]

/-! ## Filters around a center -/

/-- The text of a predicate with a circle is a filter of one of two parsers. -/
theorem Predicate.fragment_circle {s : Scope} {rule : Rule} {field : Option Field} {p : Predicate}
    {center : Point} {distance : Distance} {text : String}
    (hcircle : p.payload = .geo (.circle center distance))
    (h : p.fragment s rule field = .ok (some text)) :
    ∃ parser name, (parser = "bbox" ∨ parser = "geofilt") ∧
      text = circleFilter parser name center distance := by
  obtain ⟨key, payload⟩ := p
  cases hcircle
  obtain ⟨body, hbody, hsome⟩ := map_eq_ok_iff.mp h
  cases hsome
  cases rule with
  | near =>
    obtain ⟨name, -, hname⟩ := bind_eq_ok_iff.mp hbody
    exact ⟨"bbox", name, .inl rfl, (Except.ok.inj hname).symm⟩
  | within =>
    obtain ⟨name, -, hname⟩ := bind_eq_ok_iff.mp hbody
    exact ⟨"geofilt", name, .inr rfl, (Except.ok.inj hname).symm⟩
  | literal | between | fuzzy | sloppy | wildcard | expression | function => cases hbody

/-! ## Fragments in the text of a criteria -/

theorem infix_intercalate (separator : String) {l : List String} {t : String} (h : t ∈ l) :
    t.toList <:+: (separator.intercalate l).toList := by
  induction l with
  | nil => cases h
  | cons a r ih =>
    cases r with
    | nil =>
      refine ⟨[], [], ?_⟩
      rw [List.nil_append, List.append_nil, List.mem_singleton.mp h, String.intercalate_singleton]
    | cons b r =>
      rw [String.intercalate_cons_cons, String.toList_append, String.toList_append]
      rcases List.mem_cons.mp h with rfl | h
      · exact ((List.prefix_append _ _).trans (List.prefix_append _ _)).isInfix
      · exact (ih h).trans (List.suffix_append _ _).isInfix

theorem infix_chainText {l : List String} {t : String} (h : t ∈ l) :
    t.toList <:+: (chainText l).toList := by
  unfold chainText
  split
  · refine ⟨[], [], ?_⟩
    rw [List.nil_append, List.append_nil, List.mem_singleton.mp h]
  · rw [String.toList_append, String.toList_append]
    exact (infix_intercalate " " h).trans (List.infix_append _ _ _)

namespace Criteria

variable {s : Scope} {c : Criteria} {p : Predicate} {text : String}

/-- What a predicate gives stands in what its criteria gives. -/
theorem infix_fragment {whole : String} (hp : p ∈ c.predicates)
    (h : p.fragment s (.ofOperation p.operation?) c.field = .ok (some text))
    (hwhole : c.fragment s = .ok (some whole)) : text.toList <:+: whole.toList := by
  rw [fragment_eq] at hwhole
  obtain ⟨-, -, hwhole⟩ := bind_eq_ok_iff.mp hwhole
  obtain ⟨name, -, hwhole⟩ := bind_eq_ok_iff.mp hwhole
  obtain ⟨fragments, hfragments, hwhole⟩ := bind_eq_ok_iff.mp hwhole
  obtain ⟨fragment, hmem, hfragment⟩ := exists_of_mapM_eq_ok hfragments hp
  cases hfragment.symm.trans h
  have hkept : text ∈ fragments.filterMap id := List.mem_filterMap.mpr ⟨_, hmem, rfl⟩
  have hempty : ¬(fragments.filterMap id).isEmpty = true := fun hnil =>
    List.ne_nil_of_mem hkept (List.isEmpty_iff.mp hnil)
  have htext := Except.ok.inj hwhole
  rw [assemble_of_ne_nil (List.ne_nil_of_mem hp), if_neg hempty] at htext
  rw [← Option.some.inj htext, String.toList_append, String.toList_append (s := chainText _)]
  exact (infix_chainText hkept).trans
    ((List.prefix_append _ _).isInfix.trans (List.suffix_append _ _).isInfix)

/-- **Where distances are plain numerals.** In a criteria that passes its check, the text of a
circle ends in the kilometers of its distance, and stands in the text of the criteria. The
kilometers are a plain numeral exactly when the distance has no sign and is not too large in
kilometers; otherwise they are the negative zero, or infinity that was made of miles. -/
theorem fragment_distance {rule : Rule} {center : Point} {distance : Distance}
    (hc : c.check = .ok ()) (hp : p ∈ c.predicates)
    (hcircle : p.payload = .geo (.circle center distance))
    (h : p.fragment s rule c.field = .ok (some text)) :
    (∃ parser name, (parser = "bbox" ∨ parser = "geofilt") ∧
      text = circleFilter parser name center distance) ∧
    (EndsInPlainDistance text ↔ distance.value.negative = false ∧ distance.InReach) ∧
    (EndsInPlainDistance text ∨ distance.text = "-0.0" ∨
      distance.metric = .miles ∧ distance.text = "Infinity") ∧
    ∀ whole, Rule.find p = .ok rule → c.fragment s = .ok (some whole) →
      text.toList <:+: whole.toList := by
  have hbounded := (hc ▸ c.accepts_check).holds.2 p hp
  rw [hcircle] at hbounded
  have hmagnitude : distance.value.IsMagnitude := hbounded
  have hwritten := Predicate.fragment_circle hcircle h
  have hplain : EndsInPlainDistance text ↔ IsPlainNumeral distance.text := by
    obtain ⟨parser, name, -, rfl⟩ := hwritten
    exact endsInPlainDistance_iff _ distance
  refine ⟨hwritten, hplain.trans (Distance.isPlainNumeral_text_iff hmagnitude.1),
    (Distance.text_cases hmagnitude).imp_left hplain.mpr, fun whole hrule hwhole => ?_⟩
  cases hrule.symm.trans (Rule.find_eq p)
  exact infix_fragment hp h hwhole

/-- Stores within a distance of a point. -/
def storesWithin (distance : Distance) : Criteria :=
  (on ⟨"store", none⟩).push .within (.geo (.circle ⟨.ofNat 1, .ofNat 2⟩ distance))

theorem fragment_storesWithin {distance : Distance}
    (h : (storesWithin distance).check = .ok ()) :
    (storesWithin distance).fragment ⟨.default, none⟩ =
      .ok (some (circleFilter "geofilt" "store" ⟨.ofNat 1, .ofNat 2⟩ distance)) := by
  rw [fragment_eq, h]
  show Except.ok (some ("" ++ "" ++ circleFilter "geofilt" "store" _ distance ++ "")) = _
  rw [String.append_empty, String.empty_append, String.empty_append]

theorem storesWithin_mile :
    let mile : Distance := ⟨.ofNat 1, .miles⟩
    let text := "\x7b!geofilt pt=1.0,2.0 sfield=store d=1.609344\x7d"
    (storesWithin mile).check = .ok () ∧
      (storesWithin mile).fragment ⟨.default, none⟩ = .ok (some text) ∧
      EndsInPlainDistance text := by
  intro mile text
  have hcheck : (storesWithin mile).check = .ok () := by decide +kernel
  have htext : circleFilter "geofilt" "store" ⟨.ofNat 1, .ofNat 2⟩ mile = text := by
    decide +kernel
  let store : Predicate := .of .within (.geo (.circle ⟨.ofNat 1, .ofNat 2⟩ mile))
  have hstore : store.fragment ⟨.default, none⟩ .within (some ⟨"store", none⟩) =
      .ok (some (circleFilter "geofilt" "store" ⟨.ofNat 1, .ofNat 2⟩ mile)) := rfl
  have hwritten := fragment_storesWithin hcheck
  obtain ⟨-, hplain, -, -⟩ := fragment_distance hcheck List.mem_cons_self rfl hstore
  rw [htext] at hwritten hplain
  exact ⟨hcheck, hwritten, hplain.mpr ⟨by decide +kernel, fun _ => by decide +kernel⟩⟩

/-- So many miles, 12 with 307 zeros, are more kilometers than a number can count. -/
theorem farMiles_written :
    let far : Distance := ⟨.ofRank false 0x7FE55C576D815726, .miles⟩
    let text := "\x7b!geofilt pt=1.0,2.0 sfield=store d=Infinity\x7d"
    (storesWithin far).check = .ok () ∧
      (storesWithin far).fragment ⟨.default, none⟩ = .ok (some text) ∧
      ¬EndsInPlainDistance text := by
  intro far text
  have hcheck : (storesWithin far).check = .ok () := by decide +kernel
  have htext : circleFilter "geofilt" "store" ⟨.ofNat 1, .ofNat 2⟩ far = text := by
    decide +kernel
  have hfar : far.text = "Infinity" := by decide +kernel
  have hfinite : far.value.isFinite = true := by decide +kernel
  have hwritten := fragment_storesWithin hcheck
  have hplain := (endsInPlainDistance_iff "\x7b!geofilt pt=1.0,2.0 sfield=store" far).trans
    (Distance.isPlainNumeral_text_iff hfinite)
  rw [htext] at hwritten
  rw [hfar] at hplain
  exact ⟨hcheck, hwritten, fun h => absurd ((hplain.mp h).2 rfl) (by decide +kernel)⟩

end Criteria

end SolrRequest
