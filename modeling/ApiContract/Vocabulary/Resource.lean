import ApiContract.Vocabulary

set_option autoImplicit false

namespace ApiContract

inductive KnownResource where
  | activeJob
  | blobPersistence
  | blobStoreTask
  | beansRetriever
  | bucket
  | bucketAcl
  | cacheFilesystem
  | cacheState
  | canceledJob
  | capacitySummary
  | completedJob
  | dataPath
  | dataPathBackend
  | dataPersistenceRule
  | dataPolicy
  | dataPolicyAcl
  | dataReplicationRule
  | degradedBucket
  | degradedDataPersistenceRule
  | degradedDataReplicationRule
  | ds3Target
  | ds3TargetReadPreference
  | ds3TargetUserMapping
  | folder
  | genericDaoNotificationRegistration
  | group
  | groupMember
  | heapDump
  | instanceIdentifier
  | job
  | jobChunk
  | jobCompletedNotificationRegistration
  | jobCreatedNotificationRegistration
  | node
  | object
  | objectCachedNotificationRegistration
  | objectLostNotificationRegistration
  | objectPersistedNotificationRegistration
  | pool
  | poolEnvironment
  | poolFailure
  | poolFailureNotificationRegistration
  | poolPartition
  | storageDomain
  | storageDomainFailure
  | storageDomainFailureNotificationRegistration
  | storageDomainMember
  | systemFailure
  | systemFailureNotificationRegistration
  | systemHealth
  | systemInformation
  | tape
  | tapeDensityDirective
  | tapeDrive
  | tapeEnvironment
  | tapeFailure
  | tapeFailureNotificationRegistration
  | tapeLibrary
  | tapePartition
  | tapePartitionFailure
  | tapePartitionFailureNotificationRegistration
  | user
  deriving DecidableEq

instance : Vocabulary KnownResource where
  all := [
    .activeJob, .blobPersistence, .blobStoreTask, .beansRetriever, .bucket, .bucketAcl,
    .cacheFilesystem, .cacheState, .canceledJob, .capacitySummary, .completedJob, .dataPath,
    .dataPathBackend, .dataPersistenceRule, .dataPolicy, .dataPolicyAcl, .dataReplicationRule,
    .degradedBucket, .degradedDataPersistenceRule, .degradedDataReplicationRule, .ds3Target,
    .ds3TargetReadPreference, .ds3TargetUserMapping, .folder, .genericDaoNotificationRegistration,
    .group, .groupMember, .heapDump, .instanceIdentifier, .job, .jobChunk,
    .jobCompletedNotificationRegistration, .jobCreatedNotificationRegistration, .node, .object,
    .objectCachedNotificationRegistration, .objectLostNotificationRegistration,
    .objectPersistedNotificationRegistration, .pool, .poolEnvironment, .poolFailure,
    .poolFailureNotificationRegistration, .poolPartition, .storageDomain, .storageDomainFailure,
    .storageDomainFailureNotificationRegistration, .storageDomainMember, .systemFailure,
    .systemFailureNotificationRegistration, .systemHealth, .systemInformation, .tape,
    .tapeDensityDirective, .tapeDrive, .tapeEnvironment, .tapeFailure,
    .tapeFailureNotificationRegistration, .tapeLibrary, .tapePartition, .tapePartitionFailure,
    .tapePartitionFailureNotificationRegistration, .user]
  spelling
    | .activeJob => "ACTIVE_JOB"
    | .blobPersistence => "BLOB_PERSISTENCE"
    | .blobStoreTask => "BLOB_STORE_TASK"
    | .beansRetriever => "BEANS_RETRIEVER"
    | .bucket => "BUCKET"
    | .bucketAcl => "BUCKET_ACL"
    | .cacheFilesystem => "CACHE_FILESYSTEM"
    | .cacheState => "CACHE_STATE"
    | .canceledJob => "CANCELED_JOB"
    | .capacitySummary => "CAPACITY_SUMMARY"
    | .completedJob => "COMPLETED_JOB"
    | .dataPath => "DATA_PATH"
    | .dataPathBackend => "DATA_PATH_BACKEND"
    | .dataPersistenceRule => "DATA_PERSISTENCE_RULE"
    | .dataPolicy => "DATA_POLICY"
    | .dataPolicyAcl => "DATA_POLICY_ACL"
    | .dataReplicationRule => "DATA_REPLICATION_RULE"
    | .degradedBucket => "DEGRADED_BUCKET"
    | .degradedDataPersistenceRule => "DEGRADED_DATA_PERSISTENCE_RULE"
    | .degradedDataReplicationRule => "DEGRADED_DATA_REPLICATION_RULE"
    | .ds3Target => "DS3_TARGET"
    | .ds3TargetReadPreference => "DS3_TARGET_READ_PREFERENCE"
    | .ds3TargetUserMapping => "DS3_TARGET_USER_MAPPING"
    | .folder => "FOLDER"
    | .genericDaoNotificationRegistration => "GENERIC_DAO_NOTIFICATION_REGISTRATION"
    | .group => "GROUP"
    | .groupMember => "GROUP_MEMBER"
    | .heapDump => "HEAP_DUMP"
    | .instanceIdentifier => "INSTANCE_IDENTIFIER"
    | .job => "JOB"
    | .jobChunk => "JOB_CHUNK"
    | .jobCompletedNotificationRegistration => "JOB_COMPLETED_NOTIFICATION_REGISTRATION"
    | .jobCreatedNotificationRegistration => "JOB_CREATED_NOTIFICATION_REGISTRATION"
    | .node => "NODE"
    | .object => "OBJECT"
    | .objectCachedNotificationRegistration => "OBJECT_CACHED_NOTIFICATION_REGISTRATION"
    | .objectLostNotificationRegistration => "OBJECT_LOST_NOTIFICATION_REGISTRATION"
    | .objectPersistedNotificationRegistration => "OBJECT_PERSISTED_NOTIFICATION_REGISTRATION"
    | .pool => "POOL"
    | .poolEnvironment => "POOL_ENVIRONMENT"
    | .poolFailure => "POOL_FAILURE"
    | .poolFailureNotificationRegistration => "POOL_FAILURE_NOTIFICATION_REGISTRATION"
    | .poolPartition => "POOL_PARTITION"
    | .storageDomain => "STORAGE_DOMAIN"
    | .storageDomainFailure => "STORAGE_DOMAIN_FAILURE"
    | .storageDomainFailureNotificationRegistration =>
      "STORAGE_DOMAIN_FAILURE_NOTIFICATION_REGISTRATION"
    | .storageDomainMember => "STORAGE_DOMAIN_MEMBER"
    | .systemFailure => "SYSTEM_FAILURE"
    | .systemFailureNotificationRegistration => "SYSTEM_FAILURE_NOTIFICATION_REGISTRATION"
    | .systemHealth => "SYSTEM_HEALTH"
    | .systemInformation => "SYSTEM_INFORMATION"
    | .tape => "TAPE"
    | .tapeDensityDirective => "TAPE_DENSITY_DIRECTIVE"
    | .tapeDrive => "TAPE_DRIVE"
    | .tapeEnvironment => "TAPE_ENVIRONMENT"
    | .tapeFailure => "TAPE_FAILURE"
    | .tapeFailureNotificationRegistration => "TAPE_FAILURE_NOTIFICATION_REGISTRATION"
    | .tapeLibrary => "TAPE_LIBRARY"
    | .tapePartition => "TAPE_PARTITION"
    | .tapePartitionFailure => "TAPE_PARTITION_FAILURE"
    | .tapePartitionFailureNotificationRegistration =>
      "TAPE_PARTITION_FAILURE_NOTIFICATION_REGISTRATION"
    | .user => "USER"

abbrev Resource := Open KnownResource

-- The registrations for notifications, of which new kinds may appear.
def Resource.isNotification (r : Resource) : Bool :=
  Name.endsIn r.text "NOTIFICATION_REGISTRATION"

-- There is one of these in a system, so that neither an id nor a name addresses it.
def Resource.isSingleton : Resource → Bool
  | .known .capacitySummary | .known .dataPath | .known .dataPathBackend
  | .known .poolEnvironment | .known .systemHealth | .known .systemInformation
  | .known .tapeEnvironment => true
  | _ => false

def Resource.isIdAddressed : Resource → Bool
  | .known .activeJob | .known .job | .known .jobChunk | .known .tape | .known .tapeDrive
  | .known .tapeLibrary | .known .user => true
  | _ => false

def Resource.isNameAddressed : Resource → Bool
  | .known .bucket | .known .object => true
  | _ => false

end ApiContract
