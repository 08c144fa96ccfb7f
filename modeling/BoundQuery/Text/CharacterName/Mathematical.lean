/-!
# Names of music and mathematics
-/

namespace BoundQuery.Text.CharacterName

/-- The characters from `U+1D000` to `U+1EFFF`: music, mathematics and scripts. -/
def mathematical : String := "
  a+1d000+BYZANTINE MUSICAL SYMBOL PSILIzDASEIAzPERISPOMENIzOXEIA EKFONITIKONbfDIPLI
  zVAREIA EKFONITIKONbgDIPLIzKATHISTIzSYRMATIKIzPARAKLITIKIzYPOKRISISbi DIPLIzKREMASTI
  zAPESO EKFONITIKONzEXO EKFONITIKONzTELEIAzKENTIMATAzAPOSTROFOSbj DIPLIzSYNEVMAzTHITA
  zOLIGON ARCHAIONzGORGON ARCHAIONzPSILONzCHAMILONzVATHYzISON ARCHAIONzKENTIMA ARCHAIONbgTA ARCHAION
  zSAXIMATAzPARICHONzSTAVROS APODEXIAzOXEIAI ARCHAIONzVAREIAI ARCHAIONzAPODERMA ARCHAIONbcTHEMA
  zKLASMAzREVMAzPIASMA ARCHAIONzTINAGMAzANATRICHISMAzSEISMAbaYNAGMA ARCHAIONbhMETA STAVROU
  zOYRANISMA ARCHAIONzTHEMAzLEMOIzDYOzTRIAbaESSERAzKRATIMATAzAPESO EXO NEOzFTHORA ARCHAIONzIMIFTHORA
  zTROMIKON ARCHAIONzKATAVA TROMIKONzPELASTONbaSIFISTONzKONTEVMAzCHOREVMA ARCHAIONzRAPISMA
  zPARAKALESMA ARCHAIONbeLITIKI ARCHAIONzICHADINzNANAzPETASMAzKONTEVMA ALLOzTROMIKON ALLO
  zSTRAGGISMATAzGRONTHISMATAzISON NEOzOLIGON NEObaXEIA NEOzPETASTIzKOUFISMAzPETASTOKOUFISMA
  zKRATIMOKOUFISMAzPELASTON NEOzKENTIMATA NEO ANObg NEO ANOzYPSILIzAPOSTROFOS NEObiI SYNDESMOS NEO
  zYPORROIzKRATIMOYPORROONzELAFRONzCHAMILIzMIKRON ISONzVAREIA NEOzPIASMA NEObaSIFISTON NEOzOMALON
  zANTIKENOMAzLYGISMAzPARAKLITIKI NEObeALESMA NEOzETERON PARAKALESMAzKYLISMAzANTIKENOKYLISMA
  zTROMIKON NEOzEKSTREPTONzSYNAGMA NEObbRMAzCHOREVMA NEOzEPEGERMAzSEISMA NEOzXIRON KLASMA
  zTROMIKOPSIFISTONzPSIFISTOLYGISMAzTROMIKOLYGISMAbgPARAKALESMAzPSIFISTOPARAKALESMAzTROMIKOSYNAGMA
  zPSIFISTOSYNAGMAzGORGOSYNTHETONzARGOSYNTHETONzETERON ARGOSYNTHETONzOYRANISMA NEOzTHEMATISMOS ESO
  bmXObe APLOUNbcS KAI APOTHESzKATAVASMAzENDOFONONzYFEN KATObeANOzSTAVROSzKLASMA ANOzDIPLI ARCHAION
  zKRATIMA ARCHAIONbiLLObhNEOzAPODERMA NEObbLIzDIPLIzTRIPLIbaETRAPLIzKORONISzLEIMMA ENOS CHRONOU
  bgDYO CHRONONbgTRION CHRONONbhESSARON CHRONONbgIMISEOS CHRONOUzGORGON NEO ANO
  bgPARESTIGMENON ARISTERAbuDEXIAzDIGORGONbh PARESTIGMENON ARISTERA KATOcfANObwDEXIAzTRIGORGONzARGON
  zIMIDIARGONzDIARGONzAGOGI POLI ARGIbfARGOTERIbiIbfMETRIAbhSIbfGORGIbjOTERIbfPOLI GORGI
  zMARTYRIA PROTOS ICHOSbiALLI PROTOS ICHOSbiDEYTEROS ICHOSbiALLI DEYTEROS ICHOSbiTRITOS ICHOS
  blFONIASbjETARTOS ICHOSbrLEGETOS ICHOSbiLEGETOS ICHOSbiPLAGIOS ICHOSzISAKIA TELOUS ICHIMATOS
  zAPOSTROFOI TELOUS ICHIMATOSzFANEROSIS TETRAFONIASbjMONOFONIASbjDIFONIASzMARTYRIA VARYS ICHOS
  biPROTOVARYS ICHOSbjLAGIOS TETARTOS ICHOSzGORTHMIKON N APLOUNbmDIPLOUNzENARXIS KAI FTHORA VOU
  zIMIFONONbdTHORONzFTHORA ARCHAION DEYTEROU ICHOUbgDIATONIKI PAbqNANAbgNAOS ICHOSbgDIATONIKI DI
  bgSKLIRON DIATONON DIbgDIATONIKI KEbqZObqNI KATObtANObgMALAKON CHROMA DIFONIASbvMONOFONIAS
  baHTORA SKLIRON CHROMA VASISbaTHORA SKLIRON CHROMA SYNAFIbgNENANOzCHROA ZYGOSbfKLITONbfSPATHI
  zFTHORA I YFESIS TETARTIMORIONbgENARMONIOS ANTIFONIAzYFESIS TRITIMORIONzDIESIS TRITIMORION
  bhETARTIMORIONbgAPLI DYO DODEKATAbgMONOGRAMMOS TESSERA DODEKATAbgDIGRAMMOS EX DODEKATA
  bgTRIGRAMMOS OKTO DODEKATAzYFESIS APLI DYO DODEKATAbgMONOGRAMMOS TESSERA DODEKATA
  bgDIGRAMMOS EX DODEKATAbgTRIGRAMMOS OKTO DODEKATAzGENIKI DIESISbgYFESISzDIASTOLI APLI MIKRIboEGALI
  biDIPLIbiTHESEOSzSIMANSIS THESEOSbp DISIMOUbqTRISIMOUbrETRASIMOUbiARSEOSbo DISIMOUbpTRISIMOU
  bqETRASIMOUzDIGRAMMA GGbbFTOGGOS OUzSTIGMAzARKTIKO PAbhVOUbhGAbhDIbhKEbhZObhNIzKENTIMATA NEO MESO
  bg NEO MESObgTA NEO KATObg NEO KATObaLASMA KATOzGORGON NEO KATOa+b+MUSICAL SYMBOL SINGLE BARLINE
  pDOUBLE BARLINEpFINAL BARLINEpREVERSE FINAL BARLINEpDASHED BARLINEpSHORT BARLINEpLEFT REPEAT SIGN
  pRIGHT REPEAT SIGNqEPEAT DOTSpDAL SEGNOr CAPOpSEGNOpCODApREPEATED FIGURE-1bf2bf3pFERMATAw BELOW
  pBREATH MARKpCAESURApBRACEtKETpONE-LINE STAFFpTWO-LINE STAFFqHREE-LINE STAFFpFOUR-LINE STAFF
  qIVE-LINE STAFFpSIX-LINE STAFFtSTRING FRETBOARDpFOUR-STRING FRETBOARDpG CLEFv OTTAVA ALTAbdBASSA
  pC CLEFpF CLEFv OTTAVA ALTAbdBASSApDRUM CLEF-1z2p+3+MULTIPLE MEASURE RESTpDOUBLE SHARPwFLAT
  pFLAT UPuDOWNpNATURAL UPxDOWNpSHARP UPvDOWNpQUARTER TONE SHARPbcFLATpCOMMON TIMEqUT TIME
  pOTTAVA ALTAwBASSApQUINDICESIMA ALTAbcBASSApMULTI RESTpWHOLE RESTpHALF RESTpQUARTER REST
  pEIGHTH RESTpSIXTEENTH RESTpTHIRTY-SECOND RESTpSIXTY-FOURTH RESTpONE HUNDRED TWENTY-EIGHTH REST
  pX NOTEHEADpPLUS NOTEHEADpCIRCLE X NOTEHEADpSQUARE NOTEHEAD WHITEbfBLACK
  pTRIANGLE NOTEHEAD UP WHITEbkBLACKbhLEFT WHITEbmBLACKbhRIGHT WHITEbnBLACKbhDOWN WHITEbmBLACK
  bhUP RIGHT WHITEbqBLACKpMOON NOTEHEAD WHITEbdBLACKpTRIANGLE-ROUND NOTEHEAD DOWN WHITEbsBLACK
  pPARENTHESIS NOTEHEADpVOID NOTEHEADpNOTEHEAD BLACKqULL NOTEHEADpCLUSTER NOTEHEAD WHITEbgBLACK
  pBREVEpWHOLE NOTEpHALF NOTEpQUARTER NOTEpEIGHTH NOTEpSIXTEENTH NOTEpTHIRTY-SECOND NOTE
  pSIXTY-FOURTH NOTEpONE HUNDRED TWENTY-EIGHTH NOTEpCOMBINING STEMbaPRECHGESANG STEMzTREMOLO-1bh2bh3
  pFINGERED TREMOLO-1bg2bg3pCOMBINING AUGMENTATION DOTzFLAG-1be2be3be4be5pBEGIN BEAMpEND BEAM
  pBEGIN TIEpEND TIEpBEGIN SLURpEND SLURpBEGIN PHRASEpEND PHRASEpCOMBINING ACCENTzSTACCATOzTENUTO
  zSTACCATISSIMOzMARCATObg-STACCATOzACCENT-STACCATOzLOUREpARPEGGIATO UPbaDOWNpCOMBINING DOITzRIP
  zFLIPzSMEARzBENDzDOUBLE TONGUEzTRIPLE TONGUEpRINFORZANDOpSUBITOpZpPIANOpMEZZOpFORTEpCRESCENDO
  pDECRESCENDOpGRACE NOTE SLASHbaNO SLASHpTRqURNpINVERTED TURNpTURN SLASHuUPpORNAMENT STROKE-1bf2bf3
  bf4bf5bf6bf7bf8bf9bf10bg1pHAUPTSTIMMEpNEBENSTIMMEpEND OF STIMMEpDEGREE SLASHpCOMBINING DOWN BOW
  zUP BOWzHARMONICzSNAP PIZZICATOpPEDAL MARKvUP MARKpHALF PEDAL MARKpGLISSANDO UPzDOWN
  pWITH FINGERNAILSpDAMPt ALLpMAXIMApLONGApBREVISpSEMIBREVIS WHITEbaBLACKpMINIMAv BLACK
  pSEMIMINIMA WHITEbaBLACKpFUSA WHITEuBLACKpLONGA PERFECTA RESTvIMPERFECTA RESTpBREVIS REST
  pSEMIBREVIS RESTpMINIMA RESTpSEMIMINIMA RESTpTEMPUS PERFECTUM CUM PROLATIONE PERFECTAbvIMPERFECTA
  bvPERFECTA DIMINUTION-1wIMPERFECTUM CUM PROLATIONE PERFECTAbxIMPERFECTAch DIMINUTION-1ct2ct3pCROIX
  pGREGORIAN C CLEFzF CLEFpSQUARE BpVIRGApPODATUSpCLIVISpSCANDICUSpCLIMACUSpTORCULUSpPORRECTUS
  y FLEXUSpSCANDICUS FLEXUSpTORCULUS RESUPINUSpPES SUBPUNCTISpKIEVAN C CLEFwEND OF PIECEwFINAL NOTE
  wRECITATIVE MARKwWHOLE NOTEwHALF NOTEwQUARTER NOTE STEM DOWNboUPwEIGHTH NOTE STEM DOWNbnUP
  wFLAT SIGNpSORIpKORONa+16+GREEK VOCAL NOTATION SYMBOL-1bc2bc3bc4bc5bc6bc7bc8bc9bc10bd1bd2bd3bd4bd5
  bd6bd7bd8bd9bc20bd1bd2bd3bd4bc50bd1bd2bd3bd4gINSTRUMENTAL NOTATION SYMBOL-1bj2bj4bj5bj7bj8bj11bk2
  bk3bk4bk7bk8bk9bj23bk4bk5bk6bk7bk9bj30bk2bk6bk7bk8bk9bj40bk2bk3bk5bk7bk8bk9bj50bk1bk2bk3bk4
  aCOMBINING GREEK MUSICAL TRISEMEzETRASEMEyPENTASEMEaGREEK MUSICAL LEIMMAa+9b+MAYAN NUMERAL ZERO
  oONEoTWOpHREEoFOURpIVEoSIXpEVENoEIGHToNINEoTENoELEVENoTWELVEpHIRTEENoFOURTEENpIFTEENoSIXTEEN
  pEVENTEENoEIGHTEENoNINETEENb+d+ONOGRAM FOR EARTHaDIGRAM FOR HEAVENLY EARTHmUMAN EARTH
  lEARTHLY HEAVENuUMANq,aTETRAGRAM FOR CENTREoFULL CIRCLEoMIREDoBARRIERoKEEPING SMALLoCONTRARIETY
  oASCENToOPPOSITIONoBRANCHING OUToDEFECTIVENESS OR DISTORTIONpIVERGENCEoYOUTHFULNESSoINCREASE
  oPENETRATIONoREACHoCONTACToHOLDING BACKoWAITINGoFOLLOWINGoADVANCEoRELEASEqSISTANCEoEASEoJOY
  oCONTENTIONoENDEAVOURoDUTIESoCHANGEoDECISIVENESSoBOLD RESOLUTIONoPACKINGoLEGIONoCLOSENESSoKINSHIP
  oGATHERINGoSTRENGTHoPURITYoFULLNESSoRESIDENCEoLAW OR MODELoRESPONSEoGOING TO MEEToENCOUNTERSoSTOVE
  oGREATNESSoENLARGEMENToPATTERNoRITUALoFLIGHToVASTNESS OR WASTINGoCONSTANCYoMEASUREoETERNITYoUNITY
  oDIMINISHMENToCLOSED MOUTHoGUARDEDNESSpATHERING INoMASSINGoACCUMULATIONoEMBELLISHMENToDOUBToWATCH
  oSINKINGoINNERoDEPARTUREpARKENINGpIMMINGoEXHAUSTIONoSEVERANCEpTOPPAGEoHARDNESSoCOMPLETIONpLOSURE
  oFAILUREoAGGRAVATIONoCOMPLIANCEoON THE VERGEoDIFFICULTIESoLABOURINGoFOSTERING
  a+a+COUNTING ROD UNIT DIGIT ONEyTWOzHREEyFOURzIVEySIXzEVENyEIGHTyNINEnTENS DIGIT ONEyTWOzHREEyFOUR
  zIVEySIXzEVENyEIGHTyNINEaIDEOGRAPHIC TALLY MARK ONExTWOyHREExFOURyIVEaTALLY MARK ONElFIVE
  a+88+MATHEMATICAL BOLD CAPITAL AbaBbaCbaDbaEbaFbaGbaHbaIbaJbaKbaLbaMbaNbaObaPbaQbaRbaSbaTbaUbaVbaW
  baXbaYbaZsSMALL AyByCyDyEyFyGyHyIyJyKyLyMyNyOyPyQyRySyTyUyVyWyXyYyZnITALIC CAPITAL AbcBbcCbcDbcE
  bcFbcGbcHbcIbcJbcKbcLbcMbcNbcObcPbcQbcRbcSbcTbcUbcVbcWbcXbcYbcZuSMALL AbaBbaCbaDbaEbaFbaGba+2+IbaJ
  baKbaLbaMbaNbaObaPbaQbaRbaSbaTbaUbaVbaWbaXbaYbaZnBOLD ITALIC CAPITAL AbhBbhCbhDbhEbhFbhGbhHbhIbhJ
  bhKbhLbhMbhNbhObhPbhQbhRbhSbhTbhUbhVbhWbhXbhYbhZzSMALL AbfBbfCbfDbfEbfFbfGbfHbfIbfJbfKbfLbfMbfNbfO
  bfPbfQbfRbfSbfTbfUbfVbfWbfXbfYbfZnSCRIPT CAPITAL Abc+2+CbcDbc+3+Gbc+3+JbcKbc+3+NbcObcPbcQbc+2+SbcT
  bcUbcVbcWbcXbcYbcZuSMALL AbaBbaCbaDba+2+Fba+2+HbaIbaJbaKbaLbaMbaNba+2+PbaQbaRbaSbaTbaUbaVbaWbaXbaY
  baZnBOLD SCRIPT CAPITAL AbhBbhCbhDbhEbhFbhGbhHbhIbhJbhKbhLbhMbhNbhObhPbhQbhRbhSbhTbhUbhVbhWbhXbhY
  bhZzSMALL AbfBbfCbfDbfEbfFbfGbfHbfIbfJbfKbfLbfMbfNbfObfPbfQbfRbfSbfTbfUbfVbfWbfXbfYbfZ
  nFRAKTUR CAPITAL AbdBbd+2+DbdEbdFbdGbd+3+JbdKbdLbdMbdNbdObdPbdQbd+2+SbdTbdUbdVbdWbdXbdYv+2+SMALL A
  bbBbbCbbDbbEbbFbbGbbHbbIbbJbbKbbLbbMbbNbbObbPbbQbbRbbSbbTbbUbbVbbWbbXbbYbbZ
  nDOUBLE-STRUCK CAPITAL AbjBbj+2+DbjEbjFbjGbj+2+IbjJbjKbjLbjMbj+2+Obj+4+SbjTbjUbjVbjWbjXbjY
  bb+2+SMALL AbhBbhCbhDbhEbhFbhGbhHbhIbhJbhKbhLbhMbhNbhObhPbhQbhRbhSbhTbhUbhVbhWbhXbhYbhZ
  nBOLD FRAKTUR CAPITAL AbiBbiCbiDbiEbiFbiGbiHbiIbiJbiKbiLbiMbiNbiObiPbiQbiRbiSbiTbiUbiVbiWbiXbiYbiZ
  baSMALL AbgBbgCbgDbgEbgFbgGbgHbgIbgJbgKbgLbgMbgNbgObgPbgQbgRbgSbgTbgUbgVbgWbgXbgYbgZ
  nSANS-SERIF CAPITAL AbgBbgCbgDbgEbgFbgGbgHbgIbgJbgKbgLbgMbgNbgObgPbgQbgRbgSbgTbgUbgVbgWbgXbgYbgZ
  ySMALL AbeBbeCbeDbeEbeFbeGbeHbeIbeJbeKbeLbeMbeNbeObePbeQbeRbeSbeTbeUbeVbeWbeXbeYbeZyBOLD CAPITAL A
  blBblCblDblEblFblGblHblIblJblKblLblMblNblOblPblQblRblSblTblUblVblWblXblYblZbdSMALL AbjBbjCbjDbjE
  bjFbjGbjHbjIbjJbjKbjLbjMbjNbjObjPbjQbjRbjSbjTbjUbjVbjWbjXbjYbjZyITALIC CAPITAL AbnBbnCbnDbnEbnFbnG
  bnHbnIbnJbnKbnLbnMbnNbnObnPbnQbnRbnSbnTbnUbnVbnWbnXbnYbnZbfSMALL AblBblCblDblEblFblGblHblIblJblK
  blLblMblNblOblPblQblRblSblTblUblVblWblXblYblZyBOLD ITALIC CAPITAL AbsBbsCbsDbsEbsFbsGbsHbsIbsJbsK
  bsLbsMbsNbsObsPbsQbsRbsSbsTbsUbsVbsWbsXbsYbsZbkSMALL AbqBbqCbqDbqEbqFbqGbqHbqIbqJbqKbqLbqMbqNbqO
  bqPbqQbqRbqSbqTbqUbqVbqWbqXbqYbqZnMONOSPACE CAPITAL AbfBbfCbfDbfEbfFbfGbfHbfIbfJbfKbfLbfMbfNbfObfP
  bfQbfRbfSbfTbfUbfVbfWbfXbfYbfZxSMALL AbdBbdCbdDbdEbdFbdGbdHbdIbdJbdKbdLbdMbdNbdObdPbdQbdRbdSbdTbdU
  bdVbdWbdXbdYbdZnITALIC SMALL DOTLESS IbiJn+3+BOLD CAPITAL ALPHAbaBETAbaGAMMAbaDELTAbaEPSILONbaZETA
  baETAbaTHETAbaIOTAbaKAPPAbaLAMDAbaMUbaNUbaXIbaOMICRONbaPIbaRHObaTHETA SYMBOLbaSIGMAbaTAUbaUPSILON
  baPHIbaCHIbaPSIbaOMEGAsNABLAsSMALL ALPHAyBETAyGAMMAyDELTAyEPSILONyZETAyETAyTHETAyIOTAyKAPPAyLAMDA
  yMUyNUyXIyOMICRONyPIyRHOyFINAL SIGMAySIGMAyTAUyUPSILONyPHIyCHIyPSIyOMEGAsPARTIAL DIFFERENTIAL
  sEPSILON SYMBOLsTHETA SYMBOLsKAPPA SYMBOLsPHI SYMBOLsRHO SYMBOLsPI SYMBOLnITALIC CAPITAL ALPHA
  bcBETAbcGAMMAbcDELTAbcEPSILONbcZETAbcETAbcTHETAbcIOTAbcKAPPAbcLAMDAbcMUbcNUbcXIbcOMICRONbcPIbcRHO
  bcTHETA SYMBOLbcSIGMAbcTAUbcUPSILONbcPHIbcCHIbcPSIbcOMEGAuNABLAuSMALL ALPHAbaBETAbaGAMMAbaDELTA
  baEPSILONbaZETAbaETAbaTHETAbaIOTAbaKAPPAbaLAMDAbaMUbaNUbaXIbaOMICRONbaPIbaRHObaFINAL SIGMAbaSIGMA
  baTAUbaUPSILONbaPHIbaCHIbaPSIbaOMEGAuPARTIAL DIFFERENTIALuEPSILON SYMBOLuTHETA SYMBOLuKAPPA SYMBOL
  uPHI SYMBOLuRHO SYMBOLuPI SYMBOLnBOLD ITALIC CAPITAL ALPHAbhBETAbhGAMMAbhDELTAbhEPSILONbhZETAbhETA
  bhTHETAbhIOTAbhKAPPAbhLAMDAbhMUbhNUbhXIbhOMICRONbhPIbhRHObhTHETA SYMBOLbhSIGMAbhTAUbhUPSILONbhPHI
  bhCHIbhPSIbhOMEGAzNABLAzSMALL ALPHAbfBETAbfGAMMAbfDELTAbfEPSILONbfZETAbfETAbfTHETAbfIOTAbfKAPPA
  bfLAMDAbfMUbfNUbfXIbfOMICRONbfPIbfRHObfFINAL SIGMAbfSIGMAbfTAUbfUPSILONbfPHIbfCHIbfPSIbfOMEGA
  zPARTIAL DIFFERENTIALzEPSILON SYMBOLzTHETA SYMBOLzKAPPA SYMBOLzPHI SYMBOLzRHO SYMBOLzPI SYMBOL
  nSANS-SERIF BOLD CAPITAL ALPHAblBETAblGAMMAblDELTAblEPSILONblZETAblETAblTHETAblIOTAblKAPPAblLAMDA
  blMUblNUblXIblOMICRONblPIblRHOblTHETA SYMBOLblSIGMAblTAUblUPSILONblPHIblCHIblPSIblOMEGAbdNABLA
  bdSMALL ALPHAbjBETAbjGAMMAbjDELTAbjEPSILONbjZETAbjETAbjTHETAbjIOTAbjKAPPAbjLAMDAbjMUbjNUbjXI
  bjOMICRONbjPIbjRHObjFINAL SIGMAbjSIGMAbjTAUbjUPSILONbjPHIbjCHIbjPSIbjOMEGAbdPARTIAL DIFFERENTIAL
  bdEPSILON SYMBOLbdTHETA SYMBOLbdKAPPA SYMBOLbdPHI SYMBOLbdRHO SYMBOLbdPI SYMBOL
  bdITALIC CAPITAL ALPHAbsBETAbsGAMMAbsDELTAbsEPSILONbsZETAbsETAbsTHETAbsIOTAbsKAPPAbsLAMDAbsMUbsNU
  bsXIbsOMICRONbsPIbsRHObsTHETA SYMBOLbsSIGMAbsTAUbsUPSILONbsPHIbsCHIbsPSIbsOMEGAbkNABLA
  bkSMALL ALPHAbqBETAbqGAMMAbqDELTAbqEPSILONbqZETAbqETAbqTHETAbqIOTAbqKAPPAbqLAMDAbqMUbqNUbqXI
  bqOMICRONbqPIbqRHObqFINAL SIGMAbqSIGMAbqTAUbqUPSILONbqPHIbqCHIbqPSIbqOMEGAbkPARTIAL DIFFERENTIAL
  bkEPSILON SYMBOLbkTHETA SYMBOLbkKAPPA SYMBOLbkPHI SYMBOLbkRHO SYMBOLbkPI SYMBOL
  nBOLD CAPITAL DIGAMMAsSMALL DIGAMMAs+3+DIGIT ZEROyONEyTWOzHREEyFOURzIVEySIXzEVENyEIGHTyNINE
  nDOUBLE-STRUCK DIGIT ZERObhONEbhTWObiHREEbhFOURbiIVEbhSIXbiEVENbhEIGHTbhNINEnSANS-SERIF DIGIT ZERO
  beONEbeTWObfHREEbeFOURbfIVEbeSIXbfEVENbeEIGHTbeNINEyBOLD DIGIT ZERObjONEbjTWObkHREEbjFOURbkIVE
  bjSIXbkEVENbjEIGHTbjNINEnMONOSPACE DIGIT ZERObdONEbdTWObeHREEbdFOURbeIVEbdSIXbeEVENbdEIGHTbdNINE
  aSIGNWRITING HAND-FIST INDEXrCIRCLE INDEXsUP INDEXrOVAL INDEXrHINGE INDEXrANGLE INDEX
  rFIST INDEX BENTrCIRCLE INDEX BENTrFIST THUMB UNDER INDEX BENTwINDEX RAISED KNUCKLEbcCUPPED
  bcHINGEDbi LOWrCIRCLE INDEX HINGErFIST INDEX MIDDLErCIRCLE INDEX MIDDLErFIST INDEX MIDDLE BENT
  bjRAISED KNUCKLESbjHINGEDbcUP MIDDLE HINGEDbcHINGED MIDDLE UPbcMIDDLE CONJOINEDbs INDEX BENT
  btMIDDLE BENTbtCUPPEDbtHINGEDbkROSSEDrCIRCLE INDEX MIDDLE CROSSEDrFIST MIDDLE BENT OVER INDEX
  wINDEX BENT OVER MIDDLEbcMIDDLE THUMBrCIRCLE INDEX MIDDLE THUMB
  rFIST INDEX MIDDLE STRAIGHT THUMB BENTbjBENT THUMB STRAIGHTbjTHUMB BENTbjHINGED SPREAD THUMB SIDE
  bcUP MIDDLE HINGED THUMB SIDEbzCONJOINEDbcHINGED MIDDLE UP THUMB SIDE
  bcMIDDLE UP SPREAD THUMB FORWARDbjTHUMB CUPPEDbqIRCLEDbpHOOKEDbqINGED
  wTHUMB BETWEEN INDEX MIDDLE STRAIGHTwINDEX MIDDLE CONJOINED THUMB SIDEcd CONJOINEDceBENT
  wMIDDLE THUMB HOOKED INDEX UPwINDEX THUMB HOOKED MIDDLE UPbcMIDDLE CONJOINED HINGED THUMB SIDE
  bkROSSED THUMB SIDEbkONJOINED THUMB FORWARDbtCUPPED THUMB FORWARDwMIDDLE THUMB CUPPED INDEX UP
  wINDEX THUMB CUPPED MIDDLE UPwMIDDLE THUMB CIRCLED INDEX UPbxHINGED
  wINDEX THUMB ANGLED OUT MIDDLE UPbpIN MIDDLE UPbiCIRCLED MIDDLE UPbcMIDDLE THUMB CONJOINED HINGED
  bpANGLED OUTbv,wMIDDLE THUMB ANGLED OUT INDEX UPcaCROSSEDbqINDEX UP
  wINDEX THUMB HOOKED MIDDLE HINGEDsLAT FOUR FINGERSbi BENTbjHINGEDbjCONJOINEDbs SPLIT
  rCLAW FOUR FINGERS CONJOINEDrFIST FOUR FINGERS CONJOINED BENTrHINGE FOUR FINGERS CONJOINED
  rFLAT FIVE FINGERS SPREADwHEEL FIVE FINGERS SPREADwFIVE FINGERS SPREAD FOUR BENT
  wHEEL FIVE FINGERS SPREAD FOUR BENTwFIVE FINGERS SPREAD BENTwHEEL FIVE FINGERS SPREAD BENT
  wFIVE FINGERS SPREAD THUMB FORWARDrCUP FIVE FINGERS SPREADbo OPENrHINGE FIVE FINGERS SPREAD OPEN
  rOVAL FIVE FINGERS SPREADrFLAT FIVE FINGERS SPREAD HINGEDbw THUMB SIDEbxNO THUMBv,
  v BETWEEN PALM FACINGSwHEELwTHUMB SIDEwHEEL THUMB SIDEwTHUMB BENTbcFORWARDwSPLIT INDEX THUMB SIDE
  bcCENTREbi THUMB SIDEbt BENTbcLITTLErCLAWv THUMB SIDEwNO THUMBwTHUMB FORWARDrHOOK CURLICUEv,
  rCUP OPENu,u OPEN THUMB SIDEvTHUMB SIDEvOPEN NO THUMBvNO THUMBvOPEN THUMB FORWARDvTHUMB FORWARD
  tRLICUE OPENz,sIRCLErOVALv THUMB SIDEwNO THUMBwTHUMB FORWARDrHINGE OPENbb THUMB FORWARDw,w SMALL
  xOPEN THUMB SIDExTHUMB SIDExOPEN NO THUMBxNO THUMBxTHUMB SIDE TOUCHING INDEXbdBETWEEN MIDDLE RING
  rANGLErFIST INDEX MIDDLE RINGrCIRCLE INDEX MIDDLE RINGrHINGE INDEX MIDDLE RING
  rANGLE INDEX MIDDLE RINGrHINGE LITTLErFIST INDEX MIDDLE RING BENTboCONJOINED
  rHINGE INDEX MIDDLE RING CONJOINEDrFIST LITTLE DOWNbh RIPPLE STRAIGHTbpCURVEDbiOTHERS CIRCLEDbdUP
  wTHUMB UNDER LITTLE UPrCIRCLE LITTLE UPrOVAL LITTLE UPrANGLE LITTLE UPrFIST LITTLE RAISED KNUCKLE
  bdBENTbdTOUCHES THUMBbeHUMBrHINGE LITTLE THUMBrFIST LITTLE INDEX THUMBrHINGE LITTLE INDEX THUMB
  rANGLE LITTLE INDEX THUMB INDEX THUMB OUTcb,rFIST LITTLE INDEXrCIRCLE LITTLE INDEX
  rHINGE LITTLE INDEXrANGLE LITTLE INDEXrFIST INDEX MIDDLE LITTLErCIRCLE INDEX MIDDLE LITTLE
  rHINGE INDEX MIDDLE LITTLExRINGrANGLE INDEX MIDDLE LITTLErFIST INDEX MIDDLE CROSS LITTLE
  rCIRCLE INDEX MIDDLE CROSS LITTLErFIST RING DOWNrHINGE RING DOWN INDEX THUMB HOOK MIDDLE
  rANGLE RING DOWN MIDDLE THUMB INDEX CROSSrFIST RING UPbbRAISED KNUCKLEbbLITTLErCIRCLE RING LITTLE
  rOVAL RING LITTLErANGLE RING LITTLErFIST RING MIDDLEbh CONJOINEDbiRAISED KNUCKLESbbINDEXbbTHUMB
  rHOOK RING THUMBrFIST INDEX RING LITTLErCIRCLE INDEX RING LITTLEsURLICUE INDEX RING LITTLE ON
  rHOOK INDEX RING LITTLE OUTboINboUNDERrCUP INDEX RING LITTLErHINGE INDEX RING LITTLE
  rANGLE INDEX RING LITTLE OUTbo,rFIST MIDDLE DOWNrHINGE MIDDLErFIST MIDDLE UPrCIRCLE MIDDLE UP
  rFIST MIDDLE RAISED KNUCKLEbdUP THUMB SIDErHOOK MIDDLE THUMBrFIST MIDDLE THUMB LITTLEbdLITTLE
  bdRING LITTLErCIRCLE MIDDLE RING LITTLEsURLICUE MIDDLE RING LITTLE ONtP MIDDLE RING LITTLE
  rHINGE MIDDLE RING LITTLErANGLE MIDDLE RING LITTLE OUTbqINbp,rCIRCLE MIDDLE RING LITTLE BENT
  sLAW MIDDLE RING LITTLE CONJOINEDby SIDErHOOK MIDDLE RING LITTLE CONJOINED OUTbzINby,
  sINGE INDEX HINGEDrFIST INDEX THUMB SIDErHINGE INDEX THUMB SIDE
  rFIST INDEX THUMB SIDE THUMB DIAGONALbtCONJOINEDbtBENTbnINDEX BENTbnBOTH BENTbnINDEX HINGE
  biFORWARD INDEX STRAIGHTbwBENTbiHOOKbiCURLICUEblVE THUMB INSIDE
  rCLAW INDEX THUMB CURVE THUMB INSIDErFIST INDEX THUMB CURVE THUMB UNDERbjIRCLErCUP INDEX THUMB
  bg OPENrHINGE INDEX THUMB OPENbjLARGEbi,bi SMALLrANGLE INDEX THUMB OUTbjINbi,rFIST THUMBbb HEEL
  bcSIDE DIAGONALbhCONJOINEDbhBENTbcFORWARDbcBETWEEN INDEX MIDDLEbkMIDDLE RINGbkRING LITTLE
  bcUNDER TWO FINGERSbcOVER TWO FINGERSbcUNDER THREE FINGERSbiFOUR FINGERS
  bcOVER FOUR RAISED KNUCKLESv,v HEELmTOUCH SINGLEsMULTIPLEsBETWEENmGRASP SINGLEsMULTIPLEsBETWEEN
  mSTRIKE SINGLEtMULTIPLEtBETWEENmBRUSH SINGLEsMULTIPLEsBETWEENmRUB SINGLEqMULTIPLEqBETWEEN
  mSURFACE SYMBOLSuBETWEENnQUEEZE LARGE SINGLEuSMALL SINGLEuLARGE MULTIPLEuSMALL MULTIPLEvEQUENTIAL
  mFLICK LARGE SINGLEsSMALL SINGLEsLARGE MULTIPLEsSMALL MULTIPLEtEQUENTIALmSQUEEZE FLICK ALTERNATING
  mMOVEMENT-HINGE UP DOWN LARGEbjSMALLbeSEQUENTIALbbDOWN SEQUENTIALbbUP DOWN ALTERNATING LARGE
  bvSMALLbbSIDE TO SIDE SCISSORSvWALLPLANE FINGER CONTACTvFLOORPLANE FINGER CONTACT
  vWALLPLANE SINGLE STRAIGHT SMALLbvMEDIUMbvLARGEcaSTbmWRIST FLEXbfDOUBLE STRAIGHTbmWRIST FLEX
  bmALTERNATINGbx WRIST FLEXbfCROSSbfTRIPLE STRAIGHT MOVEMENTbmWRIST FLEXbmALTERNATINGbx WRIST FLEX
  bfBEND SMALLbkMEDIUMbkLARGEbfCORNER SMALLbmMEDIUMbmLARGEbmROTATIONbgHECK SMALLblMEDIUMblLARGE
  bfBOX SMALLbjMEDIUMbjLARGEbfZIGZAG SMALLbmMEDIUMbmLARGEbfPEAKS SMALLblMEDIUMblLARGE
  mTRAVEL-WALLPLANE ROTATION-WALLPLANE SINGLEbwDOUBLEbwALTERNATINGbmFLOORPLANE SINGLEbxDOUBLE
  bxALTERNATINGbdSHAKINGbdARM SPIRAL SINGLEboDOUBLEboTRIPLEmMOVEMENT-DIAGONAL AWAY SMALLbjMEDIUM
  bjLARGEboSTbeTOWARDS SMALLbmMEDIUMbmLARGEbrSTbeBETWEEN AWAY SMALLbrMEDIUMbrLARGEbwST
  bmTOWARDS SMALLbuMEDIUMbuLARGEbzSTvFLOORPLANE SINGLE STRAIGHT SMALLbwMEDIUMbwLARGEcbSTbnWRIST FLEX
  bgDOUBLE STRAIGHTbnWRIST FLEXbnALTERNATINGby WRIST FLEXbgCROSSbgTRIPLE STRAIGHT MOVEMENT
  bnWRIST FLEXbnALTERNATING MOVEMENTbzWRIST FLEXbgBENDbgCORNER SMALLbnMEDIUMbnLARGEbhHECKbgBOX SMALL
  bkMEDIUMbkLARGEbgZIGZAG SMALLbnMEDIUMbnLARGEbgPEAKS SMALLbmMEDIUMbmLARGE
  mTRAVEL-FLOORPLANE ROTATION-FLOORPLANE SINGLEbyDOUBLEbyALTERNATINGbnWALLPLANE SINGLEbxDOUBLE
  bxALTERNATINGbeSHAKINGmMOVEMENT-WALLPLANE CURVE QUARTER SMALLbtMEDIUMbtLARGEbyST
  blHALF-CIRCLE SMALLbxMEDIUMbxLARGEccSTblTHREE-QUARTER CIRCLE SMALLcgMEDIUMbfHUMP SMALLbkMEDIUM
  bkLARGEbfLOOP SMALLbkMEDIUMbkLARGEbkSMALL DOUBLEbfWAVE CURVE DOUBLE SMALLbxMEDIUMbxLARGE
  bqTRIPLE SMALLbxMEDIUMbxLARGEbfCURVE THEN STRAIGHTbkD CROSS SMALLbsMEDIUM
  mROTATION-WALLPLANE SINGLEbfDOUBLEbfALTERNATEmMOVEMENT-WALLPLANE SHAKINGbfCURVE HITTING FRONT WALL
  bfHUMP HITTING FRONT WALLbfLOOP HITTING FRONT WALLbfWAVE HITTING FRONT WALL
  mROTATION-WALLPLANE SINGLE HITTING FRONT WALLbfDOUBLE HITTING FRONT WALL
  bfALTERNATING HITTING FRONT WALLmMOVEMENT-WALLPLANE CURVE HITTING CHESTbfHUMP HITTING CHEST
  bfLOOP HITTING CHESTbfWAVE HITTING CHESTmROTATION-WALLPLANE SINGLE HITTING CHEST
  bfDOUBLE HITTING CHESTbfALTERNATING HITTING CHESTmMOVEMENT-WALLPLANE WAVE DIAGONAL PATH SMALL
  byMEDIUMbyLARGEvFLOORPLANE CURVE HITTING CEILING SMALLccLARGEbgHUMP HITTING CEILING SMALL DOUBLE
  cbLARGE DOUBLEcbSMALL TRIPLEcbLARGE TRIPLEbgLOOP HITTING CEILING SMALL SINGLEcbLARGE SINGLE
  cbSMALL DOUBLEcbLARGE DOUBLEbgWAVE HITTING CEILING SMALLcbLARGE
  mROTATION-FLOORPLANE SINGLE HITTING CEILINGbgDOUBLE HITTING CEILINGbgALTERNATING HITTING CEILING
  mMOVEMENT-FLOORPLANE CURVE HITTING FLOOR SMALLcaLARGEbgHUMP HITTING FLOOR SMALL DOUBLE
  bzLARGE DOUBLEbzTRIPLE SMALL TRIPLEcgLARGE TRIPLEbgLOOP HITTING FLOOR SMALL SINGLEbzLARGE SINGLE
  bzSMALL DOUBLEbzLARGE DOUBLEbgWAVE HITTING FLOOR SMALLbzLARGE
  mROTATION-FLOORPLANE SINGLE HITTING FLOORbgDOUBLE HITTING FLOORbgALTERNATING HITTING FLOOR
  mMOVEMENT-FLOORPLANE CURVE SMALLbmMEDIUMbmLARGEbrSTbmCOMBINEDbgHUMP SMALLbgLOOP SMALLbgWAVE SNAKE
  bmMALLblLARGEmROTATION-FLOORPLANE SINGLEbgDOUBLEbgALTERNATINGmMOVEMENT-FLOORPLANE SHAKING PARALLEL
  vWALLPLANE ARM CIRCLE SMALL SINGLEbqMEDIUM SINGLEbqSMALL DOUBLEbqMEDIUM DOUBLE
  vFLOORPLANE ARM CIRCLE HITTING WALL SMALL SINGLEceMEDIUM SINGLEceLARGE SINGLEceSMALL DOUBLE
  ceMEDIUM DOUBLEceLARGE DOUBLEvWALLPLANE WRIST CIRCLE FRONT SINGLEbyDOUBLE
  vFLOORPLANE WRIST CIRCLE HITTING WALL SINGLEcgDOUBLEvWALLPLANE FINGER CIRCLES SINGLEbuDOUBLE
  vFLOORPLANE FINGER CIRCLES HITTING WALL SINGLEciDOUBLEmDYNAMIC ARROWHEAD SMALLbeLARGEuFASTuSLOW
  uTENSEuRELAXEDuSIMULTANEOUSbg ALTERNATINGuEVERY OTHER TIMEuGRADUALmHEADq RIM
  rMOVEMENT-WALLPLANE STRAIGHTbkTILTbaFLOORPLANE STRAIGHTbaWALLPLANE CURVEbaFLOORPLANE CURVEz CIRCLE
  mFACE DIRECTION POSITION NOSE FORWARD TILTINGbpUP OR DOWNbz TILTINGmEYEBROWS STRAIGHT UPbeNEUTRAL
  beDOWNmDREAMY EYEBROWS NEUTRAL DOWNbcDOWN NEUTRALbcUP NEUTRALbcNEUTRAL UPmFOREHEAD NEUTRALvCONTACT
  vWRINKLEDmEYES OPENrSQUEEZEDrCLOSEDp BLINK SINGLEwMULTIPLEpS HALF OPENrWIDE OPENrHALF CLOSED
  rWIDENING MOVEMENTp WINKpLASHES UPwDOWNwFLUTTERINGpGAZE-WALLPLANE STRAIGHTbm DOUBLEbnALTERNATING
  uFLOORPLANE STRAIGHTbn DOUBLEboALTERNATINGuWALLPLANE CURVEDuFLOORPLANE CURVEDuWALLPLANE CIRCLING
  mCHEEKS PUFFEDtNEUTRALtSUCKEDmTENSE CHEEKS HIGHzMIDDLEzLOWmEARSmNOSE NEUTRALrCONTACTrWRINKLES
  sIGGLESmAIR BLOWING OUTqSUCKING INqBLOW SMALL ROTATIONSqSUCK SMALL ROTATIONSmBREATH INHALEtEXHALE
  mMOUTH CLOSED NEUTRALzFORWARDzCONTACTsSMILEx WRINKLEDyOPENsFROWNx WRINKLEDyOPENsOPEN CIRCLE
  xFORWARDxWRINKLEDxOVALbb WRINKLEDbcYAWNxRECTANGLEbg WRINKLEDbhYAWNsKISSw FORWARDxWRINKLEDsTENSE
  x FORWARDySUCKEDmLIPS PRESSED TOGETHERp LOWER OVER UPPERqUPPER OVER LOWERmMOUTH CORNERS
  sWRINKLES SINGLEbbDOUBLEmTONGUE STICKING OUT FARtLICKING LIPStTIP BETWEEN LIPS
  xTOUCHING INSIDE MOUTHtINSIDE MOUTH RELAXEDtMOVES AGAINST CHEEKtCENTRE STICKING OUTbaINSIDE MOUTH
  nEETHr MOVEMENTsON TONGUEbb MOVEMENTvLIPSz MOVEMENTsBITE LIPSmMOVEMENT-WALLPLANE JAW
  vFLOORPLANE JAWmNECKmHAIRmEXCITEMENTmSHOULDER HIP SPINEzPOSITIONSmWALLPLANE SHOULDER HIP MOVE
  mFLOORPLANE SHOULDER HIP MOVEmSHOULDER TILTING FROM WAISTmTORSO-WALLPLANE STRAIGHT STRETCH
  bcCURVED BENDsFLOORPLANE TWISTINGmUPPER BODY TILTING FROM HIP JOINTSmLIMB COMBINATIONrLENGTH-1y2y3
  y4y5y6y7mFINGERmLOCATION-WALLPLANE SPACEvFLOORPLANE SPACEu HEIGHTvWIDTHvDEPTHvHEAD NECKvTORSO
  vLIMBS DIGITSmCOMMAmFULL STOPmSEMICOLONmCOLONmPARENTHESISm+10+FILL MODIFIER-2ba3ba4ba5ba6
  m+2+ROTATION MODIFIER-2be3be4be5be6be7be8be9be10bf1bf2bf3bf4bf5bf6
  a+451+LATIN SMALL LETTER FENG DIGRAPH WITH TRILLtREVERSED SCRIPT GgLETTER SMALL CAPITAL TURNED G
  gSMALL LETTER REVERSED KgLETTER SMALL CAPITAL L WITH BELTgSMALL LETTER LEZH WITH RETROFLEX HOOK
  tTURNED Y WITH BELTtREVERSED ENGtTURNED R WITH LONG LEG AND RETROFLEX HOOK
  u WITH HOOK AND RETROFLEX HOOKgLETTER RETROFLEX CLICK WITH RETROFLEX HOOK
  gSMALL LETTER ESH WITH DOUBLE BARbm AND CURLtTURNED T WITH CURL
  gLETTER INVERTED GLOTTAL STOP WITH CURLnSTRETCHED C WITH CURLoMALL CAPITAL TURNED K
  gSMALL LETTER L WITH FISHHOOKtDEZH DIGRAPH WITH PALATAL HOOKtL WITH BELT AND PALATAL HOOK
  tENG WITH PALATAL HOOKtTURNED R WITH PALATAL HOOKtR WITH FISHHOOK AND PALATAL HOOK
  tTESH DIGRAPH WITH PALATAL HOOKtEZH WITH PALATAL HOOKtDEZH DIGRAPH WITH RETROFLEX HOOK
  tI WITH STROKE AND RETROFLEX HOOKtO WITH RETROFLEX HOOKtTESH DIGRAPH WITH RETROFLEX HOOK
  tC WITH RETROFLEX HOOKtS WITH CURLa+e2+COMBINING GLAGOLITIC LETTER AZUbcBUKYbcVEDEbcGLAGOLIbcDOBRO
  bcYESTUbcZHIVETEbd+2+EMLJAbcIZHEbdNITIAL IZHEbd,bcDJERVIbcKAKObcLJUDIJEbcMYSLITEbcNASHIbcONU
  bcPOKOJIbcRITSIbcSLOVObcTVRIDObcUKUbcFRITUbcHERUbc+3+SHTAbcTSIbcCHRIVIbcSHAbcYERUbfIbdATIbd+2+U
  bcSMALL YUSbc+2+YObcIOTATED SMALL YUSbcBIG YUSbcIOTATED BIG YUSbcFITA
  a+d6+NYIAKENG PUACHUE HMONG LETTER MAbeTSAbeNTAbeTAbeHAbeNAbeXAbeNKAbeCAbeLAbeSAbeZAbeNCAbfTSAbeKA
  beDAbeNYAbfRAbeVAbeNTXAbeTXAbeFAbeRAbeQAbeYAbeNQAbePAbeXYAbeNPAbeDLAbeNPLAbeHAHbeMLAbePLAbeGAbeRRA
  beAbfAbeIbeUbeObfObeEbfEbeWx+4+TONE-BbcMbcJbcVbcSbcGbcDxSIGN FOR PERSONbgTHINGbgLOCATIONbgANIMAL
  bgINVERTEBRATEbcXW XWyYLLABLE LENGTHENERx+3+DIGIT ZERObdONEbdTWObeHREEbdFOURbeIVEbdSIXbeEVEN
  bdEIGHTbdNINEx+5+LOGOGRAM NYAJxCIRCLED CAa+141+TOTO LETTER PAmBAmTAmDAmKAmGAmMAmNAnGAmSAmCHAmYAmWA
  mJAmHAmRAmLAmImBREATHY ImIUmBREATHY IUmUmEmBREATHY EmEOmBREATHY EOmOmAEmBREATHY AEmA
  fSIGN RISING TONEa+12+WANCHO LETTER AAp,oBAoCAoDAoGAoYAoPHAoLAoNAoPAoTApHAoFAoSApHAoJAoZAoWAoVAoKA
  oOoAUoRAoMAoKHAoHAoEoIoNGAoUoLLHAoTSApRAoONGoAANGpNGoINGoONoENoAANoNYAoUENoYIHhTONE TUPpNImKOIpNI
  hDIGIT ZEROnONEnTWOoHREEnFOURoIVEnSIXoEVENnEIGHTnNINEh+6+NGUN SIGNa+4e1+ETHIOPIC SYLLABLE HHYAvUvI
  vAAvEEw,vOs+2+GURAGE HHWAsHHWIvEEw,s+2+GURAGE MWIbbEEz+2+QWIbbEEbc,zBWIbbEEzKWIbbEEbc,zGWIbbEEbc,
  zFWIbbEEzPWIbbEEa+2+MENDE KIKAKUI SYLLABLE M001 KIba2 KAba3 KUz65 KEEz95 KEz76 KOOz48 KOy179 KUA
  y004 WIba5 WAba6 WUy126 WEEz18 WEba4 WOOy045 WOy194 WUIz43 WEIy061 WVIz49 WVAy139 WVEy007 MIN
  ba8 MANba9 MUNz59 MENz94 MONy154 MUANz89 MUENy010 BIba1 BAba2 BUy150 BEEy097 BEy103 BOOz38 BO
  y013 Iba4 Aba5 Uy163 EEz00 Ez65 OOz47 Oz37 EIba1 INba5 INz95 ANz78 ENy019 SIz20 SAba1 SUy162 SEE
  z16 SEz36 SOOy079 SOy196 SIAy025 LIba6 LAba7 LUz84 LEEz73 LEz54 LOOy153 LOz10 LONG LEy016 DIba7 DA
  ba8 DUz89 DEEy180 DOOba1 DOy022 TIba3 TAba4 TUz91 TEEz55 TEy104 TOOy069 TOz28 JIba9 JAz30 JU
  y157 JEEz13 JEz60 JOOy063 JOy175 LONG JOy031 YIba2 YAba3 YUy109 YEEy080 YEy141 YOOz21 YOy034 FI
  ba5 FAba6 FUz78 FEEba5 FEy133 FOOy088 FOy197 FUAz01 FANy037 NINba8 NANba9 NUNy117 NENz69 NONz76 HI
  y041 HAy186 HUy040 HEEz96 HEz42 HOOy140 HOy083 HEEIy128 HOOUy053 HINy130 HANy087 HUNz52 HEN
  y193 HONy046 HUANz90 NGGIz43 NGGAz82 NGGUy115 NGGEEz46 NGGEz56 NGGOOz20 NGGOz59 NGGAAz27 NGGUA
  y086 LONG NGGEy106 LONG NGGOOz83 LONG NGGOz55 GIz11 GAz68 GUz90 GEEz66 GUEIba7 GUANz84 NGEN
  y057 NGONy177 NGUANy068 PIz99 PAz50 PUz81 PEEz51 PEy102 POOy066 POy145 MBIy062 MBAy122 MBU
  y047 MBEEy188 MBEEy072 MBEy172 MBOOba4 MBOz87 MBUUz61 LONG MBEz05 LONG MBOOz42 LONG MBOz32 KPI
  y092 KPAz74 KPUz44 KPEEy108 KPEz12 KPOOz58 KPOz24 GBIy056 GBAy148 GBUy093 GBEEy107 GBEy071 GBOO
  ba0 GBOy171 RAz23 NDIba9 NDAba5 NDUz91 NDEEz19 NDEy067 NDOOba4 NDOy152 NJAz92 NJUz49 NJEEz34 NJOO
  z82 VIba5 VAz51 VUz73 VEEy085 VEy144 VOOy077 VOy164 NYINy058 NYANy170 NYUNy098 NYENz60 NYON
  o+3+DIGIT ONEuTWOvHREEuFOURvIVEuSIXvEVENuEIGHTuNINEoCOMBINING NUMBER TEENSbhNSbfHUNDREDS
  bfTHOUSANDSbgEN THOUSANDSbfHUNDRED THOUSANDSbfMILLIONSa+2a+ADLAM CAPITAL LETTER ALIFvDAALIvLAAM
  vMIIMvBAvSINNYIIYHEvPEvBHEvRAvEvFAvIvOvDHAvYHEvWAWvNUNvKAFvYAvUvJIIMvCHIvHAvQAAFvGAvNYAvTUvNHAvVA
  vKHAvGBEvZALvKPOvSHAgSMALL LETTER ALIFtDAALItLAAMtMIIMtBAtSINNYIIYHEtPEtBHEtRAtEtFAtItOtDHAtYHE
  tWAWtNUNtKAFtYAtUtJIIMtCHItHAtQAAFtGAtNYAtTUtNHAtVAtKHAtGBEtZALtKPOtSHAgALIF LENGTHENER
  gVOWEL LENGTHENERgGEMINATION MARKgHAMZAgCONSONANT MODIFIERgGEMINATE CONSONANT MODIFIERgNUKTA
  hASALIZATION MARKg+5+DIGIT ZEROmONEmTWOnHREEmFOURnIVEmSIXnEVENmEIGHTmNINE
  g+5+INITIAL EXCLAMATION MARKoQUESTION MARKa+312+INDIC SIYAQ NUMBER ONEtTWOuHREEtFOURuIVEtSIXuEVEN
  tEIGHTtNINEtTENuWENTYuHIRTYtFORTYuIFTYtSIXTYuEVENTYtEIGHTYtNINETYtONE HUNDREDtTWO HUNDRED
  uHREE HUNDREDtFOUR HUNDREDuIVE HUNDREDtSIX HUNDREDuEVEN HUNDREDtEIGHT HUNDREDtNINE HUNDRED
  tONE THOUSANDtTWO THOUSANDuHREE THOUSANDtFOUR THOUSANDuIVE THOUSANDtSIX THOUSANDuEVEN THOUSAND
  tEIGHT THOUSANDtNINE THOUSANDtTEN THOUSANDuWENTY THOUSANDuHIRTY THOUSANDtFORTY THOUSAND
  uIFTY THOUSANDtSIXTY THOUSANDuEVENTY THOUSANDtEIGHTY THOUSANDtNINETY THOUSANDtLAKHxANmLAKH MARK
  mNUMBER KARORyANtPREFIXED ONEbcTWObdHREEbcFOURbdIVEbcSIXbdEVENbcEIGHTbcNINEmPLACEHOLDER
  mFRACTION ONE QUARTERzHALFvTHREE QUARTERSmRUPEE MARKmNUMBER ALTERNATE ONEbdTWObeEN THOUSAND
  mALTERNATE LAKH MARKa+4d+OTTOMAN SIYAQ NUMBER ONEvTWOwHREEvFOURwIVEvSIXwEVENvEIGHTvNINEvTENwWENTY
  wHIRTYvFORTYwIFTYvSIXTYwEVENTYvEIGHTYvNINETYvONE HUNDREDvTWO HUNDREDwHREE HUNDREDvFOUR HUNDRED
  wIVE HUNDREDvSIX HUNDREDwEVEN HUNDREDvEIGHT HUNDREDvNINE HUNDREDvONE THOUSANDvTWO THOUSAND
  wHREE THOUSANDvFOUR THOUSANDwIVE THOUSANDvSIX THOUSANDwEVEN THOUSANDvEIGHT THOUSANDvNINE THOUSAND
  vTEN THOUSANDwWENTY THOUSANDwHIRTY THOUSANDvFORTY THOUSANDwIFTY THOUSANDvSIXTY THOUSAND
  wEVENTY THOUSANDvEIGHTY THOUSANDvNINETY THOUSANDoMARRATANoALTERNATE NUMBER TWObgHREEbfFOURbgIVE
  bfSIXbgEVENbfEIGHTbfNINEbfTENbfFOUR HUNDREDbfSIX HUNDREDbfTWO THOUSANDbgEN THOUSAND
  oFRACTION ONE HALFbbSIXTHa+c3+ARABIC MATHEMATICAL ALEFuBEHuJEEMuDALu+2+WAWuZAINuHAHuTAHuYEHuKAF
  uLAMuMEEMuNOONuSEENuAINuFEHuSADuQAFuREHuSHEENuTEHvHEHuKHAHuTHALuDADuZAHuGHAINuDOTLESS BEHbcNOON
  bcFEHbcQAFu+2+INITIAL BEHbcJEEMbc+2+HEHbd+3+AHbc+2+YEHbcKAFbcLAMbcMEEMbcNOONbcSEENbcAINbcFEHbcSAD
  bcQAFbc+2+SHEENbcTEHbdHEHbcKHAHbc+2+DADbc+2+GHAINu+7+TAILED JEEMbb+5+HAHbb+2+YEHbb+2+LAMbb+2+NOON
  bbSEENbbAINbb+2+SADbbQAFbb+2+SHEENbb+3+KHAHbb+2+DADbb+2+GHAINbb+2+DOTLESS NOONbj+2+QAF
  u+2+STRETCHED BEHbeJEEMbe+2+HEHbf+3+AHbeTAHbeYEHbeKAFbe+2+MEEMbeNOONbeSEENbeAINbeFEHbeSADbeQAF
  be+2+SHEENbeTEHbfHEHbeKHAHbe+2+DADbeZAHbeGHAINbeDOTLESS BEHbm+2+FEHu+2+LOOPED ALEFbbBEHbbJEEMbbDAL
  bbHEHbbWAWbbZAINbbHAHbbTAHbbYEHbb+2+LAMbbMEEMbbNOONbbSEENbbAINbbFEHbbSADbbQAFbbREHbbSHEENbbTEH
  bcHEHbbKHAHbbTHALbbDADbbZAHbbGHAINu+6+DOUBLE-STRUCK BEHbiJEEMbiDALbi+2+WAWbiZAINbiHAHbiTAHbiYEH
  bi+2+LAMbiMEEMbiNOONbiSEENbiAINbiFEHbiSADbiQAFbiREHbiSHEENbiTEHbjHEHbiKHAHbiTHALbiDADbiZAHbiGHAIN
  u+35+OPERATOR MEEM WITH HAH WITH TATWEELbdHAH WITH DAL
  "

end BoundQuery.Text.CharacterName
