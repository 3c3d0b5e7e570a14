import LiveText.Date.Instant

/-!
# Zones

Dates are shown in the local time of the host or with one offset. What the clocks of a host show is
its own affair: it is given by the offset at each instant and by the instant of each time that the
clocks show.
-/

namespace LiveText

/-- The local time of a host. -/
structure HostClock where
  /-- The offset in effect at an instant; with summer time there is more than one. -/
  offsetAt : Instant → Offset
  /-- The earliest instant at which the clocks show a time; none if they skip it. -/
  earliest? : WallTime → Option Instant

/-- The zone that dates are shown in. -/
inductive Zone where
  | host (clock : HostClock)
  | fixed (offset : Offset)

namespace Zone

/-- The zone with an offset in minutes, if it is less than a day. -/
def ofMinutes? (minutes : Int) : Option Zone := (Offset.ofSeconds? (minutes * 60)).map .fixed

/-- The offset in effect at an instant. -/
def offsetAt : Zone → Instant → Offset
  | host clock, t => clock.offsetAt t
  | fixed offset, _ => offset

/-- An instant seen in the zone. -/
def localize (zone : Zone) (t : Instant) : LocalTime := ⟨t, zone.offsetAt t⟩

/-- The instant at which clocks in the zone show a time, if there is one. -/
def instant? : Zone → WallTime → Option Instant
  | host clock, t => clock.earliest? t
  | fixed offset, t => t.instant? offset

end Zone

end LiveText
