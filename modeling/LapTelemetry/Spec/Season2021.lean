/-! # The bundled specification

The datagrams of the 2021 season as the game sends them: a header, and a body for
each kind of datagram that the library follows. The text is compiled like any
other specification. -/

namespace LapTelemetry.Spec

set_option autoImplicit false

/-- Specification text of the 2021 datagram format. -/
def season2021 : String := "/*
 * F1 2021 UDP telemetry wire format.
 *
 * All values are little-endian and structures are packed (no padding).
 * Every packet starts with a PacketHeader; packetFormat is 2021 and
 * packetVersion is 1 for every packet type below.
 */

struct PacketHeader
\x7b
    uint16    m_packetFormat;             // 2021
    uint8     m_gameMajorVersion;         // Game major version - \"X.00\"
    uint8     m_gameMinorVersion;         // Game minor version - \"1.XX\"
    uint8     m_packetVersion;            // Version of this packet type, all start from 1
    uint8     m_packetId;                 // Identifier for the packet type
    uint64    m_sessionUID;               // Unique identifier for the session
    float     m_sessionTime;              // Session timestamp
    uint32    m_frameIdentifier;          // Identifier for the frame the data was retrieved on
    uint8     m_playerCarIndex;           // Index of player's car in the array
    uint8     m_secondaryPlayerCarIndex;  // Index of secondary player's car (255 if none)
\x7d;

// Packet ID 0: Motion

struct CarMotionData
\x7b
    float     m_worldPositionX;           // World space X position
    float     m_worldPositionY;           // World space Y position
    float     m_worldPositionZ;           // World space Z position
    float     m_worldVelocityX;           // Velocity in world space X
    float     m_worldVelocityY;           // Velocity in world space Y
    float     m_worldVelocityZ;           // Velocity in world space Z
    int16     m_worldForwardDirX;         // World space forward X direction (normalised)
    int16     m_worldForwardDirY;         // World space forward Y direction (normalised)
    int16     m_worldForwardDirZ;         // World space forward Z direction (normalised)
    int16     m_worldRightDirX;           // World space right X direction (normalised)
    int16     m_worldRightDirY;           // World space right Y direction (normalised)
    int16     m_worldRightDirZ;           // World space right Z direction (normalised)
    float     m_gForceLateral;            // Lateral G-Force component
    float     m_gForceLongitudinal;       // Longitudinal G-Force component
    float     m_gForceVertical;           // Vertical G-Force component
    float     m_yaw;                      // Yaw angle in radians
    float     m_pitch;                    // Pitch angle in radians
    float     m_roll;                     // Roll angle in radians
\x7d;

struct PacketMotionData
\x7b
    PacketHeader    m_header;
    CarMotionData   m_carMotionData[22];

    // Extra player car ONLY data
    float         m_suspensionPosition[4];
    float         m_suspensionVelocity[4];
    float         m_suspensionAcceleration[4];
    float         m_wheelSpeed[4];
    float         m_wheelSlip[4];
    float         m_localVelocityX;
    float         m_localVelocityY;
    float         m_localVelocityZ;
    float         m_angularVelocityX;
    float         m_angularVelocityY;
    float         m_angularVelocityZ;
    float         m_angularAccelerationX;
    float         m_angularAccelerationY;
    float         m_angularAccelerationZ;
    float         m_frontWheelsAngle;
\x7d;

// Packet ID 1: Session

struct MarshalZone
\x7b
    float  m_zoneStart;   // Fraction (0..1) of way through the lap the marshal zone starts
    int8   m_zoneFlag;    // -1 = invalid/unknown, 0 = none, 1 = green, 2 = blue, 3 = yellow, 4 = red
\x7d;

struct WeatherForecastSample
\x7b
    uint8     m_sessionType;
    uint8     m_timeOffset;               // Time in minutes the forecast is for
    uint8     m_weather;                  // 0 = clear, 1 = light cloud, 2 = overcast
                                          // 3 = light rain, 4 = heavy rain, 5 = storm
    int8      m_trackTemperature;
    int8      m_trackTemperatureChange;   // 0 = up, 1 = down, 2 = no change
    int8      m_airTemperature;
    int8      m_airTemperatureChange;
    uint8     m_rainPercentage;           // Rain percentage (0-100)
\x7d;

struct PacketSessionData
\x7b
    PacketHeader    m_header;

    uint8           m_weather;
    int8            m_trackTemperature;
    int8            m_airTemperature;
    uint8           m_totalLaps;
    uint16          m_trackLength;
    uint8           m_sessionType;
    int8            m_trackId;
    uint8           m_formula;
    uint16          m_sessionTimeLeft;
    uint16          m_sessionDuration;
    uint8           m_pitSpeedLimit;
    uint8           m_gamePaused;
    uint8           m_isSpectating;
    uint8           m_spectatorCarIndex;
    uint8           m_sliProNativeSupport;
    uint8           m_numMarshalZones;
    MarshalZone     m_marshalZones[21];
    uint8           m_safetyCarStatus;
    uint8           m_networkGame;
    uint8           m_numWeatherForecastSamples;
    WeatherForecastSample m_weatherForecastSamples[56];
    uint8           m_forecastAccuracy;
    uint8           m_aiDifficulty;
    uint32          m_seasonLinkIdentifier;
    uint32          m_weekendLinkIdentifier;
    uint32          m_sessionLinkIdentifier;
    uint8           m_pitStopWindowIdealLap;
    uint8           m_pitStopWindowLatestLap;
    uint8           m_pitStopRejoinPosition;
    uint8           m_steeringAssist;
    uint8           m_brakingAssist;
    uint8           m_gearboxAssist;
    uint8           m_pitAssist;
    uint8           m_pitReleaseAssist;
    uint8           m_ERSAssist;
    uint8           m_DRSAssist;
    uint8           m_dynamicRacingLine;
    uint8           m_dynamicRacingLineType;
\x7d;

// Packet ID 2: Lap Data

struct LapData
\x7b
    uint32   m_lastLapTimeInMS;
    uint32   m_currentLapTimeInMS;
    uint16   m_sector1TimeInMS;
    uint16   m_sector2TimeInMS;
    float    m_lapDistance;
    float    m_totalDistance;
    float    m_safetyCarDelta;
    uint8    m_carPosition;
    uint8    m_currentLapNum;
    uint8    m_pitStatus;                 // 0 = none, 1 = pitting, 2 = in pit area
    uint8    m_numPitStops;
    uint8    m_sector;                    // 0 = sector1, 1 = sector2, 2 = sector3
    uint8    m_currentLapInvalid;
    uint8    m_penalties;
    uint8    m_warnings;
    uint8    m_numUnservedDriveThroughPens;
    uint8    m_numUnservedStopGoPens;
    uint8    m_gridPosition;
    uint8    m_driverStatus;
    uint8    m_resultStatus;
    uint8    m_pitLaneTimerActive;
    uint16   m_pitLaneTimeInLaneInMS;
    uint16   m_pitStopTimerInMS;
    uint8    m_pitStopShouldServePen;
\x7d;

struct PacketLapData
\x7b
    PacketHeader    m_header;
    LapData         m_lapData[22];
\x7d;

// Packet ID 6: Car Telemetry

struct CarTelemetryData
\x7b
    uint16    m_speed;                    // Speed of car in kilometres per hour
    float     m_throttle;                 // Amount of throttle applied (0.0 to 1.0)
    float     m_steer;                    // Steering (-1.0 (full lock left) to 1.0 (full lock right))
    float     m_brake;                    // Amount of brake applied (0.0 to 1.0)
    uint8     m_clutch;                   // Amount of clutch applied (0 to 100)
    int8      m_gear;                     // Gear selected (1-8, N=0, R=-1)
    uint16    m_engineRPM;
    uint8     m_drs;
    uint8     m_revLightsPercent;
    uint16    m_revLightsBitValue;
    uint16    m_brakesTemperature[4];     // Brakes temperature (celsius)
    uint8     m_tyresSurfaceTemperature[4];
    uint8     m_tyresInnerTemperature[4];
    uint16    m_engineTemperature;
    float     m_tyresPressure[4];         // Tyres pressure (PSI)
    uint8     m_surfaceType[4];
\x7d;

struct PacketCarTelemetryData
\x7b
    PacketHeader        m_header;
    CarTelemetryData    m_carTelemetryData[22];
    uint8               m_mfdPanelIndex;
    uint8               m_mfdPanelIndexSecondaryPlayer;
    int8                m_suggestedGear;
\x7d;

// Packet ID 7: Car Status

struct CarStatusData
\x7b
    uint8       m_tractionControl;
    uint8       m_antiLockBrakes;
    uint8       m_fuelMix;
    uint8       m_frontBrakeBias;
    uint8       m_pitLimiterStatus;
    float       m_fuelInTank;
    float       m_fuelCapacity;
    float       m_fuelRemainingLaps;
    uint16      m_maxRPM;
    uint16      m_idleRPM;
    uint8       m_maxGears;
    uint8       m_drsAllowed;
    uint16      m_drsActivationDistance;
    uint8       m_actualTyreCompound;
    uint8       m_visualTyreCompound;     // 16 = soft, 17 = medium, 18 = hard, 7 = inter, 8 = wet
    uint8       m_tyresAgeLaps;
    int8        m_vehicleFiaFlags;
    float       m_ersStoreEnergy;
    uint8       m_ersDeployMode;
    float       m_ersHarvestedThisLapMGUK;
    float       m_ersHarvestedThisLapMGUH;
    float       m_ersDeployedThisLap;
    uint8       m_networkPaused;
\x7d;

struct PacketCarStatusData
\x7b
    PacketHeader    m_header;
    CarStatusData   m_carStatusData[22];
\x7d;

// Packet ID 10: Car Damage

struct CarDamageData
\x7b
    float     m_tyresWear[4];
    uint8     m_tyresDamage[4];
    uint8     m_brakesDamage[4];
    uint8     m_frontLeftWingDamage;
    uint8     m_frontRightWingDamage;
    uint8     m_rearWingDamage;
    uint8     m_floorDamage;
    uint8     m_diffuserDamage;
    uint8     m_sidepodDamage;
    uint8     m_drsFault;
    uint8     m_gearBoxDamage;
    uint8     m_engineDamage;
    uint8     m_engineMGUHWear;
    uint8     m_engineESWear;
    uint8     m_engineCEWear;
    uint8     m_engineICEWear;
    uint8     m_engineMGUKWear;
    uint8     m_engineTCWear;
\x7d;

struct PacketCarDamageData
\x7b
    PacketHeader    m_header;
    CarDamageData   m_carDamageData[22];
\x7d;
"

end LapTelemetry.Spec
