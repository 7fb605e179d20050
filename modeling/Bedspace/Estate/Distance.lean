/-!
# Distances on the globe

The distance between two points is that of the great circle through them, by the haversine
formula on a sphere with the mean radius of the earth, in miles.
-/

namespace Bedspace

/-- A point by its latitude and longitude in degrees. -/
structure Coordinates where
  latitude : Float
  longitude : Float

namespace Coordinates

/-- The mean radius of the earth in miles. -/
def earthRadiusMiles : Float := 3958.8

/-- Degrees as radians. -/
def radians (degrees : Float) : Float := degrees * (3.14159265358979323846 / 180.0)

/-- The distance of two points in miles. -/
def miles (a b : Coordinates) : Float :=
  let dLat := radians (b.latitude - a.latitude)
  let dLon := radians (b.longitude - a.longitude)
  let sinLat := Float.sin (dLat / 2.0)
  let sinLon := Float.sin (dLon / 2.0)
  let h := sinLat * sinLat
    + Float.cos (radians a.latitude) * Float.cos (radians b.latitude) * (sinLon * sinLon)
  earthRadiusMiles * (2.0 * Float.atan2 (Float.sqrt h) (Float.sqrt (1.0 - h)))

end Coordinates

end Bedspace
