import RecordFilter.Double.Basic

namespace RecordFilter.Double

/-- A sum that cancels is a negative zero only when both sides are negative. -/
def add : Double → Double → Double
  | finite s r, finite t q =>
    let total := signed s (magnitude r) + signed t (magnitude q)
    if total = 0 then zero (s && t) else ofUnits (total < 0) total.natAbs 1
  | infinite s, infinite t => if s = t then infinite s else nan false
  | infinite s, finite .. => infinite s
  | finite .., infinite t => infinite t
  | _, _ => nan false

def mul : Double → Double → Double
  | finite s r, finite t q => ofUnits (s != t) (magnitude r * magnitude q) unitsPerOne
  | infinite s, infinite t => infinite (s != t)
  | infinite s, finite t q => if q.val = 0 then nan false else infinite (s != t)
  | finite s r, infinite t => if r.val = 0 then nan false else infinite (s != t)
  | _, _ => nan false

def div : Double → Double → Double
  | finite s r, finite t q =>
    if q.val = 0 then if r.val = 0 then nan false else infinite (s != t)
    else ofUnits (s != t) (magnitude r * unitsPerOne) (magnitude q)
  | infinite s, finite t _ => infinite (s != t)
  | finite s _, infinite t => zero (s != t)
  | _, _ => nan false

instance : Add Double := ⟨add⟩
instance : Mul Double := ⟨mul⟩
instance : Div Double := ⟨div⟩

/-- The nearest whole number, a half away from zero; the sign stays. -/
def roundToWhole : Double → Double
  | finite s r => ofRatio s (Rounding.halfUp (magnitude r) unitsPerOne) 1
  | x => x

end RecordFilter.Double
